import Mathlib.Control.Monad.Basic
import InkToScreen.Proofs.Conversion.Course

namespace InkToScreen
variable {lib : Library}

theorem Verdict.result_eq_error_iff {verdict : Verdict lib} {failure : Failure} :
    verdict.result = .error failure ↔ ∃ stage cause, verdict = .stopped stage cause ∧
      stage.handles cause.kind = false ∧ failure = .fault cause := by
  cases verdict with
  | refused error => simp [result]
  | spared => simp [result]
  | converted made => simp [result]
  | stopped stage cause =>
    simp only [result]
    constructor
    · intro failed
      split at failed
      · cases failed
      · rename_i unhandled
        cases failed
        exact ⟨stage, cause, rfl, Bool.eq_false_iff.mpr unhandled, rfl⟩
    · rintro ⟨_, _, ⟨rfl, rfl⟩, unhandled, rfl⟩
      rw [unhandled]
      rfl

/-- What a conversion returns after a verdict is a failure if it is refused or if a stage handles
the fault that stops it. -/
theorem Verdict.result_eq_fatalError_iff {verdict : Verdict lib} :
    verdict.result = .ok .fatalError ↔ (∃ error, verdict = .refused error) ∨
      ∃ stage cause, verdict = .stopped stage cause ∧ stage.handles cause.kind = true := by
  cases verdict with
  | refused error => simp [result]
  | spared => simp [result]
  | converted made => cases source : made.source <;> simp [result, source, ProfileSource.status]
  | stopped stage cause =>
    simp only [result]
    constructor
    · intro failed
      split at failed
      · rename_i handled
        exact .inr ⟨stage, cause, rfl, handled⟩
      · cases failed
    · rintro (⟨_, impossible⟩ | ⟨_, _, ⟨rfl, rfl⟩, handled⟩)
      · cases impossible
      · rw [if_pos handled]

namespace Converter
variable {converter : Converter} {input : Path} {stem text : String} {before after : World lib}
  {verdict : Verdict lib} {stage : Stage} {cause : Fault}

/-- A fault at a stage stops a conversion: nothing absorbs it. -/
def StopsAt (converter : Converter) (input : Path) (stem : String) (before : World lib)
    (stage : Stage) (cause : Fault) : Prop :=
  ∃ after, converter.Course input stem before (.stopped stage cause) after

theorem StopsAt.convert_eq (stops : converter.StopsAt (.ofText text) stem before stage cause) :
    (converter.convert text stem before).result =
      if stage.handles cause.kind then .ok .fatalError else .error (.fault cause) := by
  obtain ⟨after, taken⟩ := stops
  exact taken.convert_ends.1

theorem Course.refused_iff (taken : converter.Course input stem before verdict after) :
    (∃ error, verdict = .refused error) ↔ ¬ converter.settings.Accepts stem := by
  cases taken with
  | refused faulty =>
    rw [← stemError?_eq_none_iff, faulty]
    simp
  | unopened accepted | spared accepted | untransformed accepted | unstored accepted
  | converted accepted => simp [accepted]

/-- A conversion returns a status unless it is stopped by a fault that its stage does not handle;
such a fault goes through as it is. -/
theorem convert_returns_iff_handles (converter : Converter) (input stem : String)
    (before : World lib) :
    ((∃ status, (converter.convert input stem before).result = .ok status) ↔
      ∀ stage cause, converter.StopsAt (.ofText input) stem before stage cause →
        stage.handles cause.kind = true) ∧
    ((converter.convert input stem before).result = .ok .fatalError ↔
      ¬ converter.settings.Accepts stem ∨
        ∃ stage cause, converter.StopsAt (.ofText input) stem before stage cause ∧
          stage.handles cause.kind = true) ∧
    ∀ failure, (converter.convert input stem before).result = .error failure ↔
      ∃ stage cause, converter.StopsAt (.ofText input) stem before stage cause ∧
        stage.handles cause.kind = false ∧ failure = .fault cause := by
  obtain ⟨verdict, after, taken⟩ := Course.total converter (.ofText input) stem before
  have ended := taken.convert_ends.1
  refine ⟨⟨?_, ?_⟩, ⟨?_, ?_⟩, fun failure => ⟨?_, ?_⟩⟩
  · rintro ⟨status, returned⟩ stage cause stops
    rw [stops.convert_eq] at returned
    split at returned
    · rename_i handled
      exact handled
    · cases returned
  · intro handles
    cases returned : verdict.result with
    | ok status => exact ⟨status, ended.trans returned⟩
    | error failure =>
      obtain ⟨stage, cause, rfl, unhandled, _⟩ := Verdict.result_eq_error_iff.mp returned
      rw [handles stage cause ⟨after, taken⟩] at unhandled
      cases unhandled
  · intro failed
    rcases Verdict.result_eq_fatalError_iff.mp (ended.symm.trans failed) with
      refused | ⟨stage, cause, rfl, handled⟩
    · exact .inl (taken.refused_iff.mp refused)
    · exact .inr ⟨stage, cause, ⟨after, taken⟩, handled⟩
  · rintro (unaccepted | ⟨stage, cause, stops, handled⟩)
    · rw [ended]
      exact Verdict.result_eq_fatalError_iff.mpr (.inl (taken.refused_iff.mpr unaccepted))
    · rw [stops.convert_eq, if_pos handled]
  · intro failed
    obtain ⟨stage, cause, rfl, unhandled, same⟩ :=
      Verdict.result_eq_error_iff.mp (ended.symm.trans failed)
    exact ⟨stage, cause, ⟨after, taken⟩, unhandled, same⟩
  · rintro ⟨stage, cause, stops, unhandled, rfl⟩
    rw [stops.convert_eq, unhandled]
    rfl

end Converter

namespace Scripted

def truncated : Image where
  mode := "CMYK"
  loadFault := some (.reported .endOfData "eof")

private theorem convert_truncated :
    (converter.convert "in.tif" "out" (holding truncated)).result =
      .error (.fault (.reported .endOfData "eof")) := by
  decide +kernel

/-- A conversion does not return a status for every fault that is not an interruption: one goes
through when the pixels of the input end too early. -/
theorem not_convert_returns_unless_interrupted :
    ¬ ∀ (lib : Library) (converter : Converter) (input stem : String) (before : World lib),
      (∀ stage cause, converter.StopsAt (.ofText input) stem before stage cause →
        cause.kind ≠ .interrupt) →
      ∃ status, (converter.convert input stem before).result = .ok status := by
  intro returns
  have uninterrupted : ∀ stage cause,
      converter.StopsAt (.ofText "in.tif") "out" (holding truncated) stage cause →
        cause.kind ≠ .interrupt := by
    intro stage cause stops
    have stopped := stops.convert_eq.symm.trans convert_truncated
    split at stopped
    · cases stopped
    · cases stopped
      simp [Fault.kind]
  obtain ⟨status, returned⟩ :=
    returns library converter "in.tif" "out" (holding truncated) uninterrupted
  rw [convert_truncated] at returned
  cases returned

end Scripted
end InkToScreen
