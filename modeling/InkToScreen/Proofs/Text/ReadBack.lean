import InkToScreen.Text.Integer
import InkToScreen.Text.Lower

namespace InkToScreen.Text

section Digits
variable {c : Char} {text : List Char}

theorem digitValue?_of_isDigit (digit : c.isDigit = true) : digitValue? c = some (c.toNat - 48) := by
  obtain ⟨lower, upper⟩ := Char.isDigit_iff_toNat.mp digit
  change 48 ≤ c.toNat at lower
  change c.toNat ≤ 57 at upper
  have first : zeroDigits.find? (fun start => start ≤ c.toNat && c.toNat < start + 10) = some 48 := by
    refine List.find?_cons_of_pos ?_
    rw [Bool.and_eq_true, decide_eq_true_eq, decide_eq_true_eq]
    omega
  rw [digitValue?, first, Option.map_some]

theorem not_isBlank_of_isDigit (digit : c.isDigit = true) : isBlank c = false := by
  obtain ⟨lower, upper⟩ := Char.isDigit_iff_toNat.mp digit
  change 48 ≤ c.toNat at lower
  change c.toNat ≤ 57 at upper
  rw [isBlank, CodeRanges.covers, List.any_eq_false]
  intro range member
  have apart : range.2 < 48 ∨ 57 < range.1 := by
    revert range
    decide
  simp only [Bool.and_eq_true, decide_eq_true_eq]
  omega

theorem digitRun?_of_isDigit (nonempty : text ≠ []) (digits : ∀ c ∈ text, c.isDigit = true) :
    digitRun? text = some (text.map fun c => c.toNat - 48) := by
  fun_induction digitRun? text with
  | case1 => exact absurd rfl nonempty
  | case2 c => rw [digitValue?_of_isDigit (digits c List.mem_cons_self)]; rfl
  | case3 c rest ih => exact absurd (digits '_' (.tail _ (.head _))) (by decide)
  | case4 c next rest _ ih =>
    rw [List.forall_mem_cons] at digits
    rw [digitValue?_of_isDigit digits.1, ih nofun digits.2]
    rfl

theorem isDigit_of_mem_toDigits {number : Nat} : ∀ c ∈ Nat.toDigits 10 number, c.isDigit = true :=
  fun _ member => Nat.isDigit_of_mem_toDigits (by decide) (by decide) member

theorem natural?_toDigits {number : Nat} (short : (Nat.toDigits 10 number).length ≤ maxDigits) :
    natural? (Nat.toDigits 10 number) = some number := by
  have values : ofDigits ((Nat.toDigits 10 number).map fun c => c.toNat - 48) = number := by
    rw [ofDigits, List.foldl_map]
    exact Nat.ofDigitChars_ten_toDigits
  rw [natural?, digitRun?_of_isDigit Nat.toDigits_ne_nil isDigit_of_mem_toDigits, Option.bind_eq_bind,
    Option.bind_some, List.length_map, if_pos short, values]

theorem dropWhile_isBlank (visible : ∀ c ∈ text, isBlank c = false) :
    text.dropWhile isBlank = text := by
  cases text with
  | nil => rfl
  | cons c rest =>
    refine List.dropWhile_cons_of_neg ?_
    rw [visible c List.mem_cons_self]
    exact Bool.false_ne_true

theorem trimBlanks_eq_self (visible : ∀ c ∈ text, isBlank c = false) : trimBlanks text = text := by
  have reversed : ∀ c ∈ text.reverse, isBlank c = false := by simpa using visible
  rw [trimBlanks, dropWhile_isBlank visible, dropWhile_isBlank reversed, List.reverse_reverse]

theorem signed?_toDigits {number : Nat} (short : (Nat.toDigits 10 number).length ≤ maxDigits) :
    signed? (Nat.toDigits 10 number) = some (number : Int) := by
  unfold signed?
  split
  · rename_i same
    exact absurd (isDigit_of_mem_toDigits '-' (by rw [same]; exact List.mem_cons_self)) (by decide)
  · rename_i same
    exact absurd (isDigit_of_mem_toDigits '+' (by rw [same]; exact List.mem_cons_self)) (by decide)
  · rw [natural?_toDigits short]
    rfl

/-- An integer is read back from its decimal text, unless that has too many digits. -/
theorem integer?_toString {number : Int}
    (short : (Nat.toDigits 10 number.natAbs).length ≤ maxDigits) :
    integer? (toString number) = some number := by
  have visible : ∀ c ∈ Nat.toDigits 10 number.natAbs, isBlank c = false := fun c member =>
    not_isBlank_of_isDigit (isDigit_of_mem_toDigits c member)
  unfold integer?
  cases number with
  | ofNat magnitude =>
    change signed? (trimBlanks magnitude.repr.toList) = _
    rw [Nat.toList_repr]
    exact (congrArg signed? (trimBlanks_eq_self visible)).trans (signed?_toDigits short)
  | negSucc less =>
    change signed? (trimBlanks ("-" ++ (less + 1).repr).toList) = _
    have text : ("-" ++ (less + 1).repr).toList = '-' :: Nat.toDigits 10 (less + 1) := by
      rw [String.toList_append, Nat.toList_repr]
      rfl
    have signVisible : ∀ c ∈ '-' :: Nat.toDigits 10 (less + 1), isBlank c = false :=
      List.forall_mem_cons.mpr ⟨by decide, visible⟩
    have read : natural? (Nat.toDigits 10 (less + 1)) = some (less + 1) := natural?_toDigits short
    rw [text, trimBlanks_eq_self signVisible, signed?, read]
    rfl

end Digits

section Letters

/-- What every ASCII code has, every ASCII character has. -/
theorem of_ascii {c : Char} (motive : Char → Prop)
    (all : ∀ code < 128, motive (Char.ofNat code)) (ascii : c.toNat < 128) : motive c := by
  have own := all c.toNat ascii
  rwa [Char.ofNat_toNat] at own

/-- Of the rows of the table just the first one moves an ASCII character. -/
theorem find?_caseRows_ascii {c : Char} (ascii : c.toNat < 128) :
    caseRows.find? (CaseRow.moves · c.toNat) =
      if 65 ≤ c.toNat ∧ c.toNat ≤ 90 then some ⟨65, 90, 1, 32⟩ else none := by
  have others : caseRows.tail.find? (CaseRow.moves · c.toNat) = none := by
    rw [List.find?_eq_none]
    intro row member
    have late : 128 ≤ row.first := by
      revert row
      decide +kernel
    have early : ¬ row.first ≤ c.toNat := by omega
    simp [CaseRow.moves, early]
  have first : CaseRow.moves ⟨65, 90, 1, 32⟩ c.toNat = decide (65 ≤ c.toNat ∧ c.toNat ≤ 90) := by
    simp [CaseRow.moves, Nat.mod_one]
  change (⟨65, 90, 1, 32⟩ :: caseRows.tail).find? (CaseRow.moves · c.toNat) = _
  rw [List.find?_cons, first, others]
  by_cases capital : 65 ≤ c.toNat ∧ c.toNat ≤ 90 <;> simp [capital]

theorem lowerChar_ascii {c : Char} (ascii : c.toNat < 128) : lowerChar c = [c.toLower] := by
  have noDot : c ≠ 'İ' := by
    rintro rfl
    exact absurd ascii (by decide)
  -- the table of rows is searched by proof, and just these 128 characters by evaluation
  have all : ∀ code < 128, (Char.ofNat code).toLower =
      if 65 ≤ code ∧ code ≤ 90 then Char.ofNat (code + 32) else Char.ofNat code := by
    decide +kernel
  have own := all c.toNat ascii
  rw [Char.ofNat_toNat] at own
  rw [lowerChar, if_neg noDot, find?_caseRows_ascii ascii, own]
  by_cases capital : 65 ≤ c.toNat ∧ c.toNat ≤ 90
  · simp only [if_pos capital]
    rfl
  · simp only [if_neg capital]

theorem lowerFrom_ascii {text : List Char} (ascii : ∀ c ∈ text, c.toNat < 128)
    (before : List Char) : lowerFrom before text = text.map Char.toLower := by
  induction text generalizing before with
  | nil => rfl
  | cons c rest ih =>
    rw [List.forall_mem_cons] at ascii
    have noSigma : c ≠ 'Σ' := by
      rintro rfl
      exact absurd ascii.1 (by decide)
    rw [lowerFrom, if_neg noSigma, lowerChar_ascii ascii.1, ih ascii.2]
    rfl

theorem ascii_of_toLower {c : Char} (ascii : c.toLower.toNat < 128) : c.toNat < 128 := by
  unfold Char.toLower at ascii
  split at ascii
  · rename_i capital
    have upper : c.val.toNat ≤ 'Z'.val.toNat := UInt32.le_iff_toNat_le.mp capital.2
    exact Nat.lt_of_le_of_lt upper (by decide)
  · exact ascii

/-- A text that says an ASCII text in any case is lower-cased to it. -/
theorem lower_eq_of_map_toLower {text name : String}
    (same : text.toList.map Char.toLower = name.toList) (ascii : ∀ c ∈ name.toList, c.toNat < 128) :
    lower text = name := by
  have all : ∀ c ∈ text.toList, c.toNat < 128 := by
    intro c member
    refine ascii_of_toLower (ascii _ ?_)
    rw [← same]
    exact List.mem_map_of_mem member
  rw [lower, lowerFrom_ascii all, same, String.ofList_toList]

end Letters
end InkToScreen.Text
