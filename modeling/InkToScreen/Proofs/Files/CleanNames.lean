import InkToScreen.Files.Scratch
import InkToScreen.Proofs.Files.PathTexts

namespace InkToScreen

theorem hasNul_append (first second : String) :
    hasNul (first ++ second) = (hasNul first || hasNul second) := by
  simp [hasNul, String.toList_append]

theorem hasNul_joinSlashes (parts : List String) :
    hasNul (joinSlashes parts) = parts.any hasNul := by
  induction parts with
  | nil => rfl
  | cons part rest ih =>
    cases rest with
    | nil => simp [joinSlashes]
    | cons next more =>
      have slash : hasNul "/" = false := by decide
      have joined : joinSlashes (part :: next :: more) =
          part ++ "/" ++ joinSlashes (next :: more) := rfl
      rw [joined, hasNul_append, hasNul_append, slash, ih, Bool.or_false]
      exact List.any_cons.symm

theorem mem_of_mem_splitSlashes {text part : List Char} (member : part ∈ splitSlashes text) :
    ∀ c ∈ part, c ∈ text := by
  induction text generalizing part with
  | nil => simp_all [splitSlashes]
  | cons head rest ih =>
    intro c present
    rw [splitSlashes] at member
    split at member
    · rcases List.mem_cons.mp member with rfl | later
      · cases present
      · exact List.mem_cons_of_mem head (ih later c present)
    · split at member
      · rename_i noParts
        obtain rfl := List.mem_singleton.mp member
        obtain rfl := List.mem_singleton.mp present
        exact List.mem_cons_self
      · rename_i first more split
        rw [split] at ih
        rcases List.mem_cons.mp member with rfl | later
        · rcases List.mem_cons.mp present with rfl | inside
          · exact List.mem_cons_self
          · exact List.mem_cons_of_mem head (ih List.mem_cons_self c inside)
        · exact List.mem_cons_of_mem head (ih (List.mem_cons_of_mem first later) c present)

/-- A character other than the slash is in some part of a text that it is in. -/
theorem exists_mem_splitSlashes {text : List Char} {c : Char} (other : c ≠ '/')
    (present : c ∈ text) : ∃ part ∈ splitSlashes text, c ∈ part := by
  induction text with
  | nil => cases present
  | cons head rest ih =>
    rw [splitSlashes]
    rcases List.mem_cons.mp present with rfl | later
    · rw [if_neg other]
      split
      · exact ⟨[c], List.mem_cons_self, List.mem_cons_self⟩
      · exact ⟨_, List.mem_cons_self, List.mem_cons_self⟩
    · obtain ⟨part, member, inside⟩ := ih later
      split
      · exact ⟨part, List.mem_cons_of_mem [] member, inside⟩
      · cases split : splitSlashes rest with
        | nil =>
          rw [split] at member
          cases member
        | cons first more =>
          rw [split] at member
          rcases List.mem_cons.mp member with rfl | behind
          · exact ⟨head :: part, List.mem_cons_self, List.mem_cons_of_mem head inside⟩
          · exact ⟨part, List.mem_cons_of_mem _ behind, inside⟩

namespace Path

theorem noNul_parts_ofText {text : String} (clean : hasNul text = false) :
    (ofText text).parts.any hasNul = false := by
  rw [List.any_eq_false]
  intro part member held
  obtain ⟨chars, kept, rfl⟩ := List.mem_map.mp member
  have split := (List.mem_filter.mp kept).1
  have present : '\x00' ∈ chars := by simpa [hasNul] using held
  have inside := mem_of_mem_splitSlashes split '\x00' present
  simp [hasNul, inside] at clean

/-- The parts of a path text keep the character, which is neither a slash nor a dot. -/
theorem any_hasNul_parts_ofText (text : String) :
    (ofText text).parts.any hasNul = hasNul text := by
  cases held : hasNul text with
  | false => exact noNul_parts_ofText held
  | true =>
    have present : '\x00' ∈ text.toList := by simpa [hasNul] using held
    obtain ⟨part, member, inside⟩ := exists_mem_splitSlashes (by decide) present
    have step : isStep part = true := by
      simp only [isStep, Bool.and_eq_true, bne_iff_ne]
      constructor
      · rintro rfl
        cases inside
      · rintro rfl
        exact absurd inside (by decide)
    refine List.any_eq_true.mpr ⟨String.ofList part, ?_, by simpa [hasNul] using inside⟩
    exact List.mem_map_of_mem (List.mem_filter.mpr ⟨member, step⟩)

theorem hasNul_text (path : Path) : hasNul path.text = path.parts.any hasNul := by
  rcases path.text_cases with ⟨dot, empty⟩ | whole
  · rw [dot, empty]
    decide
  · have clean : hasNul path.root.text = false := by cases path.root <;> decide
    rw [whole, hasNul_append, clean, hasNul_joinSlashes, Bool.false_or]

theorem hasNul_text_ofText (text : String) : hasNul (ofText text).text = hasNul text :=
  (hasNul_text _).trans (any_hasNul_parts_ofText text)

theorem noNul_parts_parent {path : Path} (clean : path.parts.any hasNul = false) :
    path.parent.parts.any hasNul = false := by
  rw [List.any_eq_false] at clean ⊢
  intro part member
  exact clean part (List.dropLast_subset _ member)

/-- Two dots take names away, and every other part adds itself. -/
private theorem noNul_foldl_collapse {parts : List String} {place : Place}
    (cleanPlace : place.any hasNul = false) (clean : parts.any hasNul = false) :
    (parts.foldl collapse place).any hasNul = false := by
  induction parts generalizing place with
  | nil => exact cleanPlace
  | cons part rest ih =>
    rw [List.any_cons, Bool.or_eq_false_iff] at clean
    refine ih ?_ clean.2
    unfold collapse
    split
    · rw [List.any_eq_false] at cleanPlace ⊢
      intro name member
      exact cleanPlace name (List.dropLast_subset _ member)
    · simp [cleanPlace, clean.1]

theorem noNul_place {path : Path} {home : Place} (cleanHome : home.any hasNul = false)
    (clean : path.parts.any hasNul = false) : (path.place home).any hasNul = false := by
  unfold place
  refine noNul_foldl_collapse ?_ clean
  split
  · exact cleanHome
  · rfl

theorem hasNul_placeText (root : Root) (place : Place) :
    hasNul (placeText root place) = place.any hasNul := by
  have slashes : hasNul (if root = .double then "//" else "/") = false := by
    split
    · decide
    · decide
  rw [placeText, hasNul_append, slashes, hasNul_joinSlashes, Bool.false_or]

end Path

theorem Fault.isSystem_system (error : SystemError) :
    (Fault.system error).kind.isSystem = true := by
  obtain ⟨code, paths⟩ := error
  cases code <;> rfl

namespace Files
variable {α : Type} {files : Files α} {folder : Path} {cause : Fault}

/-- The character stands in the way of a file only if it is in the text of the file's path. -/
theorem obstacle?_ne_nul {place : Place} {text : String} (clean : hasNul text = false) :
    files.obstacle? place text ≠ some .nul := by
  intro blocked
  unfold obstacle? acceptText at blocked
  rw [clean] at blocked
  by_cases long : pathBytesBound ≤ text.utf8ByteSize
  · simp [long] at blocked
  · simp only [Bool.false_eq_true, long, if_false] at blocked
    split at blocked
    · cases blocked
    · obtain ⟨_, _, impossible⟩ := Option.map_eq_some_iff.mp blocked
      cases impossible

theorem obstacle?_of_nul {place : Place} {text : String} (held : hasNul text = true) :
    files.obstacle? place text = some .nul := by
  simp [obstacle?, acceptText, held]

theorem hasNul_inFolder (root : Root) (place : Place) :
    hasNul (Scratch.inFolder root place 0).text = place.any hasNul := by
  have cleanName : hasNul (Scratch.name 0) = false := by decide +kernel
  simp [Scratch.inFolder, Path.hasNul_placeText, cleanName]

/-- A scratch file is refused for the character that no path may hold exactly where it is in the
name of a folder on the way, and as the system does everywhere else. -/
theorem scratch_error_cases (refused : files.scratch folder = .error cause) :
    (folder.place files.home).any hasNul = true ∧ cause = .nulInPath ∨
      (folder.place files.home).any hasNul = false ∧ cause.kind.isSystem = true := by
  have text := hasNul_inFolder folder.root (folder.place files.home)
  simp only [scratch] at refused
  cases held : (folder.place files.home).any hasNul with
  | true =>
    rw [obstacle?_of_nul (text.trans held)] at refused
    exact .inl ⟨rfl, (Except.error.inj refused).symm⟩
  | false =>
    refine .inr ⟨rfl, ?_⟩
    split at refused
    · rename_i blocked
      exact absurd blocked (obstacle?_ne_nul (text.trans held))
    · cases refused
      exact Fault.isSystem_system _
    · split at refused
      · cases refused
      · cases refused
        exact Fault.isSystem_system _

/-- A folder whose names are clean refuses a scratch file only as the system does. -/
theorem isSystem_of_scratch_error (clean : folder.parts.any hasNul = false)
    (refused : files.scratch folder = .error cause) : cause.kind.isSystem = true := by
  rcases scratch_error_cases refused with ⟨held, _⟩ | ⟨_, isSystem⟩
  · rw [Path.noNul_place files.home_noNul clean] at held
    cases held
  · exact isSystem

end Files
end InkToScreen
