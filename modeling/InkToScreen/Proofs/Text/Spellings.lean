import Mathlib.Data.String.Basic
import InkToScreen.Proofs.Text.ReadBack
import InkToScreen.Settings.Basic

/-! Spellings: the texts that are lower-cased to a name. One character beyond ASCII becomes an ASCII
letter, the Kelvin sign; so a name without a `k` has spellings in ASCII only. -/
namespace InkToScreen.Text

/-- An ASCII character that is the lower case of ASCII characters only. -/
def IsPlain (c : Char) : Prop :=
  c.toNat < 128 ∧ c ≠ 'k'

instance (c : Char) : Decidable (IsPlain c) :=
  inferInstanceAs (Decidable (_ ∧ _))

section Characters
variable {c : Char} {before text : List Char}

/-- A row but the first takes its characters to ASCII only if it is that of the Kelvin sign, and to
characters in any case. -/
theorem CaseRow.far_of_mem {row : CaseRow} (member : row ∈ caseRows.tail) :
    (row.first = 0x212a ∧ row.last = 0x212a ∧ row.shift = -8383) ∨
      128 ≤ row.first + row.shift ∧
        (row.last + row.shift < 0xd800 ∨
          0xdfff < row.first + row.shift ∧ row.last + row.shift < 0x110000) := by
  revert row
  decide +kernel

theorem toNat_ofNat_of_valid {code : Nat} (valid : code.isValidChar) :
    (Char.ofNat code).toNat = code := by
  rw [Char.toNat, Char.ofNat, dif_pos valid]
  rfl

/-- What a row but the first makes of a character is not plain. -/
theorem CaseRow.not_isPlain {row : CaseRow} (member : row ∈ caseRows.tail)
    (moves : row.moves c.toNat = true) :
    ¬ IsPlain (Char.ofNat (c.toNat + row.shift).toNat) := by
  simp only [CaseRow.moves, Bool.and_eq_true, decide_eq_true_eq] at moves
  obtain ⟨⟨lower, upper⟩, _⟩ := moves
  rintro ⟨ascii, noKelvin⟩
  rcases CaseRow.far_of_mem member with ⟨first, last, shift⟩ | ⟨far, bounds⟩
  · have kelvin : (c.toNat + row.shift).toNat = 'k'.toNat := by
      rw [shift]
      change _ = 107
      omega
    rw [kelvin, Char.ofNat_toNat] at noKelvin
    exact noKelvin rfl
  · have valid : (c.toNat + row.shift).toNat.isValidChar := by
      change _ < 0xd800 ∨ 0xdfff < _ ∧ _ < 0x110000
      omega
    rw [toNat_ofNat_of_valid valid] at ascii
    omega

/-- A character whose lower case is plain is an ASCII character. -/
theorem ascii_of_lowerChar (plain : ∀ d ∈ lowerChar c, IsPlain d) : c.toNat < 128 := by
  by_contra large
  have noCapital : CaseRow.moves ⟨65, 90, 1, 32⟩ c.toNat = false := by
    simp only [CaseRow.moves, Bool.and_eq_false_iff, decide_eq_false_iff_not]
    omega
  unfold lowerChar at plain
  split at plain
  · exact absurd (plain '\u0307' (by simp)) (by decide)
  · split at plain
    · rename_i row found
      change (⟨65, 90, 1, 32⟩ :: caseRows.tail).find? _ = _ at found
      rw [List.find?_cons_of_neg (by simp [noCapital])] at found
      have moves := List.find?_some found
      exact CaseRow.not_isPlain (List.mem_of_find?_eq_some found) moves
        (plain _ List.mem_cons_self)
    · exact large (plain c List.mem_cons_self).1

theorem ascii_of_lowerFrom (plain : ∀ d ∈ lowerFrom before text, IsPlain d) :
    ∀ c ∈ text, c.toNat < 128 := by
  induction text generalizing before with
  | nil => simp
  | cons c rest ih =>
    rw [lowerFrom, List.forall_mem_append] at plain
    obtain ⟨first, others⟩ := plain
    rw [List.forall_mem_cons]
    refine ⟨?_, ih others⟩
    split at first
    · -- neither form of sigma is an ASCII character
      have sigma := first _ List.mem_cons_self
      unfold lowerSigma at sigma
      split at sigma
      · exact absurd sigma (by decide)
      · exact absurd sigma (by decide)
    · exact ascii_of_lowerChar first

end Characters

section Names
variable {text name : String}

/-- The spellings of a plain name are those in which ASCII letters change their case. -/
theorem lower_eq_iff (plain : ∀ c ∈ name.toList, IsPlain c) :
    lower text = name ↔ text.toList.map Char.toLower = name.toList := by
  constructor
  · rintro rfl
    have lowered : (lower text).toList = lowerFrom [] text.toList := String.toList_ofList
    rw [lowered] at plain ⊢
    exact (lowerFrom_ascii (ascii_of_lowerFrom plain) []).symm
  · intro same
    exact lower_eq_of_map_toLower same fun c member => (plain c member).1

/-- A text that is lower-cased to a plain name consists of ASCII characters. -/
theorem ascii_of_lower_eq (plain : ∀ c ∈ name.toList, IsPlain c) (same : lower text = name) :
    ∀ c ∈ text.toList, c.toNat < 128 := by
  subst same
  refine @ascii_of_lowerFrom [] text.toList ?_
  simpa only [lower, String.toList_ofList] using plain

/-- ASCII characters take one byte each. -/
theorem utf8Len_of_ascii {chars : List Char} (ascii : ∀ c ∈ chars, c.toNat < 128) :
    String.utf8Len chars = chars.length := by
  induction chars with
  | nil => rfl
  | cons c rest ih =>
    rw [List.forall_mem_cons] at ascii
    have one : c.utf8Size = 1 := by
      rw [Char.utf8Size_eq_one_iff, UInt32.le_iff_toNat_le]
      exact Nat.le_of_lt_succ ascii.1
    rw [String.utf8Len_cons, ih ascii.2, one, List.length_cons]

end Names
end InkToScreen.Text

namespace InkToScreen
open Text

theorem isPlain_of_mem_jpegExtensions :
    ∀ name ∈ jpegExtensions, ∀ c ∈ name.toList, IsPlain c := by
  have plain : jpegExtensions.all (fun name => name.toList.all fun c => decide (IsPlain c)) := by
    decide +kernel
  simpa only [List.all_eq_true, decide_eq_true_eq] using plain

/-- An extension of JPEG files takes as many bytes as it has letters, and these are three or four. -/
theorem size_of_isJpegExtension {extension : String} (jpeg : isJpegExtension extension = true) :
    extension.utf8ByteSize = extension.length ∧
      (extension.length = 3 ∨ extension.length = 4) := by
  have member : lower extension ∈ jpegExtensions := List.contains_iff_mem.mp jpeg
  have plain := isPlain_of_mem_jpegExtensions _ member
  have ascii := ascii_of_lower_eq plain rfl
  have spelt := (lower_eq_iff plain).mp rfl
  have letters : extension.length = (lower extension).length := by
    rw [← String.length_toList, ← String.length_toList, ← spelt, List.length_map]
  refine ⟨?_, ?_⟩
  · rw [← String.utf8Len_toList, utf8Len_of_ascii ascii, String.length_toList]
  · have counts : ∀ name ∈ jpegExtensions, name.length = 3 ∨ name.length = 4 := by decide +kernel
    rw [letters]
    exact counts _ member

end InkToScreen
