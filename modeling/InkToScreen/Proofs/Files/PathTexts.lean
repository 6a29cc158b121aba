import InkToScreen.Path

namespace InkToScreen

section Slashes
variable {part text : List Char}

theorem splitSlashes_slash (rest : List Char) :
    splitSlashes ('/' :: rest) = [] :: splitSlashes rest :=
  if_pos rfl

theorem splitSlashes_eq_singleton (noSlash : '/' ∉ part) : splitSlashes part = [part] := by
  induction part with
  | nil => rfl
  | cons c rest ih =>
    have other : c ≠ '/' := (List.ne_of_not_mem_cons noSlash).symm
    rw [splitSlashes, if_neg other, ih (List.not_mem_of_not_mem_cons noSlash)]

theorem splitSlashes_append_slash (noSlash : '/' ∉ part) (rest : List Char) :
    splitSlashes (part ++ '/' :: rest) = part :: splitSlashes rest := by
  induction part with
  | nil => exact splitSlashes_slash rest
  | cons c more ih =>
    have other : c ≠ '/' := (List.ne_of_not_mem_cons noSlash).symm
    rw [List.cons_append, splitSlashes, if_neg other, ih (List.not_mem_of_not_mem_cons noSlash)]

theorem splitSlashes_joinSlashes {parts : List String} (nonempty : parts ≠ [])
    (noSlash : ∀ part ∈ parts, '/' ∉ part.toList) :
    splitSlashes (joinSlashes parts).toList = parts.map String.toList := by
  induction parts with
  | nil => exact absurd rfl nonempty
  | cons part rest ih =>
    rw [List.forall_mem_cons] at noSlash
    cases rest with
    | nil => exact splitSlashes_eq_singleton noSlash.1
    | cons next more =>
      have joined : (joinSlashes (part :: next :: more)).toList =
          part.toList ++ '/' :: (joinSlashes (next :: more)).toList := by
        simp [joinSlashes, String.toList_append]
      rw [joined, splitSlashes_append_slash noSlash.1, ih (List.cons_ne_nil next more) noSlash.2]
      rfl

theorem noSlash_of_mem_splitSlashes (member : part ∈ splitSlashes text) : '/' ∉ part := by
  induction text generalizing part with
  | nil =>
    obtain rfl := List.mem_singleton.mp member
    exact List.not_mem_nil
  | cons c rest ih =>
    rw [splitSlashes] at member
    split at member
    · rcases List.mem_cons.mp member with rfl | later
      · exact List.not_mem_nil
      · exact ih later
    · rename_i other
      split at member
      · obtain rfl := List.mem_singleton.mp member
        exact List.not_mem_cons_of_ne_of_not_mem (Ne.symm other) List.not_mem_nil
      · rename_i first more split
        rw [split, List.forall_mem_cons] at ih
        rcases List.mem_cons.mp member with rfl | later
        · exact List.not_mem_cons_of_ne_of_not_mem (Ne.symm other) ih.1
        · exact ih.2 part later

end Slashes

namespace Path

/-- Every name on the way is a step, and one step only. -/
def IsNormal (path : Path) : Prop :=
  ∀ part ∈ path.parts, isStep part.toList = true ∧ '/' ∉ part.toList

/-- A path is shown as its root and its names, or as a dot if it has neither. -/
theorem text_cases (path : Path) :
    path.text = "." ∧ path.parts = [] ∨ path.text = path.root.text ++ joinSlashes path.parts := by
  obtain ⟨root, parts⟩ := path
  cases root with
  | relative =>
    cases parts with
    | nil => exact .inl ⟨rfl, rfl⟩
    | cons part rest => exact .inr rfl
  | single | double => exact .inr rfl

section Texts
variable {path : Path} {rest : List Char}

theorem isNormal_ofText (text : String) : (ofText text).IsNormal := by
  intro part member
  obtain ⟨chars, kept, rfl⟩ := List.mem_map.mp member
  obtain ⟨split, step⟩ := List.mem_filter.mp kept
  rw [String.toList_ofList]
  exact ⟨step, noSlash_of_mem_splitSlashes split⟩

theorem takeWhile_slash_eq_nil (noSlash : ∀ more, rest ≠ '/' :: more) :
    rest.takeWhile (· = '/') = [] := by
  cases rest with
  | nil => rfl
  | cons c more =>
    have other : c ≠ '/' := fun same => noSlash more (by rw [same])
    exact List.takeWhile_cons_of_neg (by simpa using other)

theorem rootOf_append (root : Root) (noSlash : ∀ more, rest ≠ '/' :: more) :
    rootOf (root.text.toList ++ rest) = root := by
  have none := takeWhile_slash_eq_nil noSlash
  cases root with
  | relative => simp [rootOf, Root.text, none]
  | single => simp [rootOf, Root.text, none]
  | double => simp [rootOf, Root.text, none]

/-- Leading slashes add no steps. -/
theorem filter_isStep_append (root : Root) :
    (splitSlashes (root.text.toList ++ rest)).filter isStep = (splitSlashes rest).filter isStep := by
  cases root with
  | relative => rfl
  | single =>
    change (splitSlashes ('/' :: rest)).filter isStep = _
    rw [splitSlashes_slash]
    rfl
  | double =>
    change (splitSlashes ('/' :: '/' :: rest)).filter isStep = _
    rw [splitSlashes_slash, splitSlashes_slash]
    rfl

/-- The text of a path in normal form is read as this path. -/
theorem ofText_text (normal : path.IsNormal) : ofText path.text = path := by
  obtain ⟨root, parts⟩ := path
  cases parts with
  | nil => cases root <;> decide
  | cons first others =>
    have isText : (text ⟨root, first :: others⟩).toList =
        root.text.toList ++ (joinSlashes (first :: others)).toList := by
      rw [← String.toList_append]
      cases root <;> rfl
    have split := splitSlashes_joinSlashes (List.cons_ne_nil first others) fun part member =>
      (normal part member).2
    have steps : ((first :: others).map String.toList).filter isStep =
        (first :: others).map String.toList := by
      rw [List.filter_eq_self, List.forall_mem_map]
      exact fun part member => (normal part member).1
    -- a further slash would make the first name empty
    have noSlash (more : List Char) : (joinSlashes (first :: others)).toList ≠ '/' :: more := by
      intro slash
      have isFirst := normal first List.mem_cons_self
      rw [slash, splitSlashes_slash, List.map_cons, List.cons.injEq] at split
      rw [← split.1] at isFirst
      exact absurd isFirst.1 (by decide)
    have names : ((first :: others).map String.toList).map String.ofList = first :: others := by
      simp
    rw [ofText, isText, rootOf_append root noSlash, filter_isStep_append, split, steps, names]

theorem isNormal_iff : path.IsNormal ↔ ∃ text, path = ofText text := by
  constructor
  · intro normal
    exact ⟨path.text, (ofText_text normal).symm⟩
  · rintro ⟨text, rfl⟩
    exact isNormal_ofText text

theorem text_ne_empty (normal : path.IsNormal) : path.text ≠ "" := by
  intro empty
  have isNothing : ofText "" = path := empty ▸ ofText_text normal
  rw [← isNothing] at empty
  exact absurd empty (by decide)

end Texts
end Path
end InkToScreen
