import InkToScreen.Files.Scratch
import InkToScreen.Settings.Basic

namespace InkToScreen

/-- A character that stays as it is ends a text in lower case if it ends the text. -/
theorem Text.lowerFrom_concat {c : Char} (plain : c ≠ 'Σ') (stays : lowerChar c = [c])
    (text before : List Char) :
    ∃ start, lowerFrom before (text ++ [c]) = start ++ [c] := by
  induction text generalizing before with
  | nil => exact ⟨[], by simp [lowerFrom, plain, stays]⟩
  | cons head rest ih =>
    obtain ⟨start, lowered⟩ := ih (head :: before)
    rw [List.cons_append, lowerFrom, lowered, ← List.append_assoc]
    exact ⟨_, rfl⟩

/-- An extension of JPEG files ends with a character that is no slash, no dot and not the last one
of a scratch file. -/
theorem exists_concat_of_isJpegExtension {extension : String}
    (accepted : isJpegExtension extension = true) :
    ∃ start c, extension.toList = start ++ [c] ∧ c ≠ '/' ∧ c ≠ '.' ∧ c ≠ 'p' := by
  have known : Text.lower extension ∈ jpegExtensions := by
    simpa [isJpegExtension] using accepted
  rcases List.eq_nil_or_concat extension.toList with empty | ⟨start, c, ends⟩
  · have lowered : Text.lower extension = "" := by simp [Text.lower, empty, Text.lowerFrom]
    rw [lowered] at known
    simp [jpegExtensions] at known
  · rw [List.concat_eq_append] at ends
    have ne {d : Char} (plain : d ≠ 'Σ') (stays : Text.lowerChar d = [d])
        (foreign : ∀ name ∈ jpegExtensions, name.toList.getLast? ≠ some d) : c ≠ d := by
      rintro rfl
      obtain ⟨lower, lowered⟩ := Text.lowerFrom_concat plain stays start []
      exact foreign _ known (by simp [Text.lower, ends, lowered])
    exact ⟨start, c, ends, ne (by decide) (by decide +kernel) (by decide),
      ne (by decide) (by decide +kernel) (by decide),
      ne (by decide) (by decide +kernel) (by decide)⟩

theorem splitSlashes_concat {c : Char} (other : c ≠ '/') (text : List Char) :
    ∃ parts last, splitSlashes (text ++ [c]) = parts ++ [last ++ [c]] := by
  induction text with
  | nil => exact ⟨[], [], by simp [splitSlashes, other]⟩
  | cons head rest ih =>
    obtain ⟨parts, last, split⟩ := ih
    rw [List.cons_append, splitSlashes]
    split
    · rename_i isSlash
      rw [split]
      exact ⟨[] :: parts, last, rfl⟩
    · rw [split]
      cases parts with
      | nil => exact ⟨[], head :: last, rfl⟩
      | cons first more => exact ⟨(head :: first) :: more, last, rfl⟩

/-- The last name of a path ends as the text of the path does. -/
theorem Path.exists_name?_ofText {text : String} {start : List Char} {c : Char}
    (ends : text.toList = start ++ [c]) (notSlash : c ≠ '/') (notDot : c ≠ '.') :
    ∃ last, (ofText text).name? = some (String.ofList (last ++ [c])) := by
  obtain ⟨parts, last, split⟩ := splitSlashes_concat notSlash start
  have isStep : isStep (last ++ [c]) = true := by
    simp [Path.isStep, List.append_eq_singleton_iff, notDot]
  refine ⟨last, ?_⟩
  simp [name?, ofText, ends, split, List.filter_append, isStep]

theorem Scratch.exists_concat_name (number : Nat) :
    ∃ start, (Scratch.name number).toList = start ++ ['p'] :=
  ⟨(".cmyk2srgb-" ++ String.ofList (digits number) ++ ".tm").toList, by
    simp [Scratch.name, String.toList_append]⟩

/-- No output file has the name of a scratch file. -/
theorem Settings.name?_outputName_ne (settings : Settings) (stem : String) (number : Nat) :
    (Path.ofText (settings.outputName stem)).name? ≠ some (Scratch.name number) := by
  obtain ⟨start, c, ends, notSlash, notDot, other⟩ :=
    exists_concat_of_isJpegExtension settings.extension_jpeg
  have text : (settings.outputName stem).toList = (stem ++ ".").toList ++ start ++ [c] := by
    simp [outputName, String.toList_append, ends]
  obtain ⟨last, named⟩ := Path.exists_name?_ofText text notSlash notDot
  obtain ⟨scratch, isScratch⟩ := Scratch.exists_concat_name number
  intro same
  rw [named] at same
  have chars := congrArg String.toList (Option.some.inj same)
  rw [isScratch, String.toList_ofList] at chars
  exact other (List.append_inj_right' chars rfl |> List.singleton_inj.mp)

end InkToScreen
