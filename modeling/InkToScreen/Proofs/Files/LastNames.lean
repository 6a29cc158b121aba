import Mathlib.Data.List.DropRight
import InkToScreen.Proofs.Files.CleanNames
import InkToScreen.Proofs.Files.PathTexts
import InkToScreen.Proofs.Files.Updates

namespace InkToScreen

namespace Text

/-- A text up to its last slash and with it. -/
def folder (text : String) : String :=
  String.ofList (text.toList.rdropWhile (· != '/'))

/-- A text behind its last slash. -/
def last (text : String) : String :=
  String.ofList (text.toList.rtakeWhile (· != '/'))

theorem folder_append_last (text : String) : folder text ++ last text = text := by
  rw [folder, last, ← String.ofList_append, List.rdropWhile_append_rtakeWhile, String.ofList_toList]

theorem noSlash_last (text : String) : '/' ∉ (last text).toList := by
  intro inside
  rw [last, String.toList_ofList] at inside
  exact absurd (List.mem_rtakeWhile_imp inside) (by decide)

theorem folder_eq_empty {text : String} (noSlash : '/' ∉ text.toList) : folder text = "" := by
  have none : text.toList.rdropWhile (· != '/') = [] := by
    rw [List.rdropWhile_eq_nil_iff]
    intro c inside
    exact bne_iff_ne.mpr fun same => noSlash (same ▸ inside)
  rw [folder, none]

theorem toList_folder_cases (text : String) :
    (folder text).toList = [] ∨ ∃ above, (folder text).toList = above ++ ['/'] := by
  rw [folder, String.toList_ofList]
  induction text.toList using List.reverseRecOn with
  | nil => exact .inl rfl
  | append_singleton above c ih =>
    by_cases slash : c = '/'
    · subst c
      exact .inr ⟨above, List.rdropWhile_concat_neg _ _ _ (by decide)⟩
    · rwa [List.rdropWhile_concat_pos (· != '/') _ _ (bne_iff_ne.mpr slash)]

end Text

section Slashes

theorem splitSlashes_ne_nil (text : List Char) : splitSlashes text ≠ [] := by
  cases text with
  | nil => simp [splitSlashes]
  | cons c rest =>
    rw [splitSlashes]
    split
    · simp
    · split
      · simp
      · simp

/-- A slash cuts a text in two that are cut further on their own. -/
theorem splitSlashes_append (above rest : List Char) :
    splitSlashes (above ++ '/' :: rest) = splitSlashes above ++ splitSlashes rest := by
  induction above with
  | nil => exact splitSlashes_slash rest
  | cons c more ih =>
    rw [List.cons_append, splitSlashes, splitSlashes, ih]
    split
    · rfl
    · cases parts : splitSlashes more with
      | nil => exact absurd parts (splitSlashes_ne_nil more)
      | cons first others => rfl

end Slashes

namespace Path

theorem rootOf_append_of_noSlash (above : List Char) {rest : List Char} (noSlash : '/' ∉ rest) :
    rootOf (above ++ rest) = rootOf above := by
  have none : rest.takeWhile (· = '/') = [] :=
    takeWhile_slash_eq_nil fun more same => noSlash (same ▸ List.mem_cons_self)
  have same : (above ++ rest).takeWhile (· = '/') = above.takeWhile (· = '/') := by
    rw [List.takeWhile_append, none, List.append_nil]
    split
    · rename_i all
      exact ((List.takeWhile_prefix _).eq_of_length all).symm
    · rfl
  rw [rootOf, same]
  rfl

/-- A step behind the last slash of a text is the last name of the path. -/
theorem ofText_append {above name : String}
    (ends : above.toList = [] ∨ ∃ more, above.toList = more ++ ['/'])
    (noSlash : '/' ∉ name.toList) (step : isStep name.toList = true) :
    ofText (above ++ name) =
      { root := (ofText above).root, parts := (ofText above).parts ++ [name] } := by
  have single : (splitSlashes name.toList).filter isStep = [name.toList] := by
    rw [splitSlashes_eq_singleton noSlash]
    exact List.filter_cons_of_pos step
  have nothing : (splitSlashes []).filter isStep = [] := rfl
  have parts : (splitSlashes (above.toList ++ name.toList)).filter isStep =
      (splitSlashes above.toList).filter isStep ++ [name.toList] := by
    rcases ends with empty | ⟨more, slash⟩
    · rw [empty, List.nil_append, single, nothing, List.nil_append]
    · rw [slash, List.append_assoc, List.singleton_append, splitSlashes_append,
        splitSlashes_append, List.filter_append, List.filter_append, single, nothing,
        List.append_nil]
  rw [ofText, String.toList_append, rootOf_append_of_noSlash _ noSlash, parts]
  simp [ofText]

theorem utf8ByteSize_joinSlashes_concat (above : List String) (name : String) :
    (joinSlashes above).utf8ByteSize ≤ (joinSlashes (above ++ [name])).utf8ByteSize := by
  induction above with
  | nil => exact Nat.zero_le _
  | cons part rest ih =>
    cases rest with
    | nil =>
      simp only [joinSlashes, List.cons_append, List.nil_append, String.utf8ByteSize_append]
      omega
    | cons next more =>
      simp only [joinSlashes, List.cons_append, String.utf8ByteSize_append] at ih ⊢
      omega

/-- The text of a path without its last name is no longer, unless it is a dot. -/
theorem utf8ByteSize_text_parent (path : Path) :
    path.parent.text.utf8ByteSize ≤ max 1 path.text.utf8ByteSize := by
  rcases path.parent.text_cases with ⟨dot, _⟩ | names
  · rw [dot]
    exact Nat.le_max_left _ _
  · rcases path.text_cases with ⟨_, empty⟩ | whole
    · have same : path.parent = path := by
        rw [parent, empty, List.dropLast_nil, ← empty]
      rw [same]
      exact Nat.le_max_right _ _
    · refine Nat.le_trans ?_ (Nat.le_max_right _ _)
      rw [names, whole, String.utf8ByteSize_append, String.utf8ByteSize_append]
      refine Nat.add_le_add_left ?_ _
      rcases List.eq_nil_or_concat path.parts with empty | ⟨above, name, parts⟩
      · rw [parent, empty, List.dropLast_nil]
      · rw [List.concat_eq_append] at parts
        rw [parent, parts, List.dropLast_concat]
        exact utf8ByteSize_joinSlashes_concat above name

theorem acceptText_parent {path : Path} (accepted : acceptText path.text = .ok ()) :
    acceptText path.parent.text = .ok () := by
  obtain ⟨clean, short⟩ := acceptText_eq_ok_iff.mp accepted
  have fits := path.utf8ByteSize_text_parent
  refine acceptText_eq_ok_iff.mpr ⟨?_, ?_⟩
  · rw [hasNul_text] at clean ⊢
    exact noNul_parts_parent clean
  · simp only [pathBytesBound] at short ⊢
    omega

end Path

namespace Files
variable {α : Type} {files : Files α} {path folder : Path} {place : Place} {scratch : Scratch}

/-- What a renaming replaces is in the folder that the path without its last name leads to. -/
theorem locate_parent_of_target (found : files.target path = .ok place) :
    ∃ here name, files.locate path.parent = .ok here ∧ files.isFolder here = true ∧
      path.name? = some name ∧ place = here ++ [name] := by
  obtain ⟨accepted, here, walked, named⟩ := target_eq_ok_iff.mp found
  obtain ⟨permissions, name, held, isName, _, _, _, _, _, rfl⟩ := targetIn_eq_ok_iff.mp named
  exact ⟨here, name, locate_eq_ok_iff.mpr ⟨Path.acceptText_parent accepted, walked⟩,
    isFolder_iff.mpr ⟨permissions, held⟩, isName, rfl⟩

theorem exists_number_of_freeScratch? {root : Root} {here : Place} {attempts first : Nat}
    (found : files.freeScratch? root here attempts first = some scratch) :
    ∃ number, scratch = Scratch.inFolder root here number := by
  induction attempts generalizing first with
  | zero => cases found
  | succ attempts ih =>
    rw [freeScratch?] at found
    split at found
    · exact ⟨first, (Option.some.inj found).symm⟩
    · exact ih found

/-- A scratch file is in the folder that its path names by its text. -/
theorem folder_of_scratch (made : files.scratch folder = .ok scratch) :
    scratch.folder = folder.place files.home := by
  simp only [Files.scratch] at made
  split at made
  · cases made
  · cases made
  · split at made
    · rename_i found
      cases made
      obtain ⟨number, rfl⟩ := exists_number_of_freeScratch? found
      exact List.dropLast_concat
    · cases made

end Files
end InkToScreen
