import InkToScreen.Conversion.Convert
import InkToScreen.Proofs.Run.Ends

namespace InkToScreen

/-- Where in a conversion a fault arises. The backstop profile is opened at one stage and tried at
another; a scratch file is made at one stage, and at another it is written and renamed. -/
inductive Stage where
  | opening
  | decoding
  | builtinTarget
  | target (profile : Path)
  | embedded
  | backstop
  | transform
  | profileBytes
  | placing
  | writing
deriving DecidableEq, Repr

/-- Faults that a conversion reports although no stage has caught them. -/
def Kind.isReported (kind : Kind) : Bool :=
  kind.isSystem || kind == value

namespace Stage

/-- A fault of this kind at this stage ends a conversion with an outcome and a notice; any other
fault goes through. -/
def handles : Stage → Kind → Bool
  | opening, kind => kind.isReported || kind == .bomb
  | decoding, kind => kind.isDecoding
  | builtinTarget, kind | profileBytes, kind => kind.isReported
  | target _, kind | embedded, kind | backstop, kind | transform, kind => kind.isProfile
  | placing, kind | writing, kind => kind.isWriting

/-- The reason that a stage stands for. The picture's own profile stands for none: the backstop
profile takes its place. -/
def label? : Stage → Option Reason
  | opening | builtinTarget | profileBytes => some .inputUnreadable
  | decoding => some .decodeFailed
  | target _ => some .targetProfileUnusable
  | embedded => none
  | backstop => some .backstopProfileUnusable
  | transform => some .transformFailed
  | placing | writing => some .encodeFailed

/-- What a fault at a stage makes a conversion end with, before the conversion reports it. -/
def failure (plan : Plan) (input output : Path) : Stage → Fault → Failure
  | opening, cause => .fault (Input.openingFault input cause)
  | decoding, cause => .ofFault Kind.isDecoding (.undecodable input) cause
  | target profile, cause => .ofFault Kind.isProfile (.targetUnusable profile) cause
  | backstop, cause => .ofFault Kind.isProfile (.backstopUnusable plan.backstop) cause
  | transform, cause => .ofFault Kind.isProfile (.backstopFailed plan.backstop input) cause
  | placing, cause => .ofFault Kind.isSystem (.noPlace output.parent) cause
  | writing, cause => .ofFault Kind.isWriting (.notWritten output) cause
  | builtinTarget, cause | embedded, cause | profileBytes, cause => .fault cause

end Stage

namespace Kind

theorem isDecoding_of_isReported {kind : Kind} (reported : kind.isReported = true) :
    kind.isDecoding = true := by
  simp only [isReported, Bool.or_eq_true] at reported
  simp only [isDecoding, Bool.or_eq_true]
  exact .inl reported

theorem isProfile_of_isReported {kind : Kind} (reported : kind.isReported = true) :
    kind.isProfile = true := by
  simp only [isReported, Bool.or_eq_true] at reported
  simp only [isProfile, Bool.or_eq_true]
  rcases reported with isSystem | isValue
  · exact .inl (.inl (.inr isSystem))
  · exact .inr isValue

end Kind

namespace Converter
variable {text : String} {cause : Fault}

/-- A fault that a conversion reports is one of the input. -/
theorem report?_of_isReported (text : String) (reported : cause.kind.isReported = true) :
    ∃ notice, report? text (.fault cause) = some notice ∧
      notice.reason? = some .inputUnreadable := by
  unfold report?
  by_cases unusable : cause.kind = .missing ∨ cause.kind = .value
  · exact ⟨_, if_pos unusable, rfl⟩
  · have isSystem : cause.kind.isSystem = true := by
      simp only [Kind.isReported, Bool.or_eq_true, beq_iff_eq] at reported
      exact reported.resolve_right fun isValue => unusable (.inr isValue)
    refine ⟨.unreadableInput text cause, ?_, rfl⟩
    simp only [unusable, isSystem, if_false, if_true]

theorem report?_ofFault {caught : Kind → Bool} {error : Fault → ConversionError}
    (isCaught : caught cause.kind = true) :
    report? text (.ofFault caught error cause) = some (.gaveUp (error cause)) := by
  simp [Failure.ofFault, isCaught, report?]

theorem report?_of_not_isReported (unreported : cause.kind.isReported = false) :
    report? text (.fault cause) = none := by
  simp only [Kind.isReported, Bool.or_eq_false_iff, beq_eq_false_iff_ne] at unreported
  obtain ⟨notSystem, notValue⟩ := unreported
  have notMissing : cause.kind ≠ .missing := by
    intro missing
    simp [missing, Kind.isSystem] at notSystem
  simp [report?, notMissing, notValue, notSystem]

end Converter

namespace Stage
variable {plan : Plan} {input output : Path} {text : String} {cause : Fault}

theorem openingFault_of_ne {cause : Fault} (recognized : cause.kind ≠ .unidentified)
    (small : cause.kind ≠ .bomb) : Input.openingFault input cause = cause := by
  unfold Input.openingFault
  split
  · rename_i unidentified
    exact absurd unidentified recognized
  · rename_i bomb
    exact absurd bomb small
  · rfl

/-- A fault that its stage handles is reported, with the reason that the stage stands for. The only
other reason is given for a text that no path may hold where a scratch file should be. -/
theorem report?_failure (stage : Stage) (outer : stage ≠ .embedded)
    (handled : stage.handles cause.kind = true) :
    ∃ notice, Converter.report? text (stage.failure plan input output cause) = some notice ∧
      (notice.reason? = stage.label? ∨ stage = .placing ∧ cause.kind = .value) := by
  cases stage with
  | opening =>
    simp only [handles, Bool.or_eq_true, beq_iff_eq] at handled
    have reported : (Input.openingFault input cause).kind.isReported = true := by
      unfold Input.openingFault
      split
      · rfl
      · rfl
      · rename_i notBomb
        exact handled.resolve_right notBomb
    obtain ⟨notice, shown, reason⟩ := Converter.report?_of_isReported text reported
    exact ⟨notice, shown, .inl reason⟩
  | builtinTarget | profileBytes =>
    obtain ⟨notice, shown, reason⟩ := Converter.report?_of_isReported text handled
    exact ⟨notice, shown, .inl reason⟩
  | embedded => exact absurd rfl outer
  | decoding | target profile | backstop | transform | writing =>
    exact ⟨_, Converter.report?_ofFault handled, .inl rfl⟩
  | placing =>
    by_cases isSystem : cause.kind.isSystem = true
    · exact ⟨_, Converter.report?_ofFault isSystem, .inl rfl⟩
    · have isValue : cause.kind = .value := by
        simp only [handles, Kind.isWriting, Bool.or_eq_true, beq_iff_eq] at handled
        exact handled.resolve_left isSystem
      have reported : cause.kind.isReported = true := by
        simp [Kind.isReported, isValue]
      obtain ⟨notice, shown, _⟩ := Converter.report?_of_isReported text reported
      refine ⟨notice, ?_, .inr ⟨rfl, isValue⟩⟩
      simp only [failure, Failure.ofFault, isSystem]
      exact shown

/-- A fault that its stage does not handle goes through as it is. -/
theorem failure_of_not_handles (stage : Stage) (unhandled : stage.handles cause.kind = false) :
    stage.failure plan input output cause = .fault cause ∧
      Converter.report? text (.fault cause) = none := by
  cases stage with
  | opening =>
    simp only [handles, Bool.or_eq_false_iff, beq_eq_false_iff_ne] at unhandled
    obtain ⟨unreported, notBomb⟩ := unhandled
    have recognized : cause.kind ≠ .unidentified := by
      intro unidentified
      simp [unidentified, Kind.isReported, Kind.isSystem] at unreported
    refine ⟨?_, Converter.report?_of_not_isReported unreported⟩
    exact congrArg Failure.fault (openingFault_of_ne recognized notBomb)
  | builtinTarget | profileBytes => exact ⟨rfl, Converter.report?_of_not_isReported unhandled⟩
  | decoding =>
    simp only [handles] at unhandled
    refine ⟨by simp [failure, Failure.ofFault, unhandled], ?_⟩
    refine Converter.report?_of_not_isReported (Bool.eq_false_iff.mpr fun reported => ?_)
    rw [Kind.isDecoding_of_isReported reported] at unhandled
    cases unhandled
  | target profile | embedded | backstop | transform =>
    simp only [handles] at unhandled
    refine ⟨by simp [failure, Failure.ofFault, unhandled], ?_⟩
    refine Converter.report?_of_not_isReported (Bool.eq_false_iff.mpr fun reported => ?_)
    rw [Kind.isProfile_of_isReported reported] at unhandled
    cases unhandled
  | writing =>
    simp only [handles] at unhandled
    exact ⟨by simp [failure, Failure.ofFault, unhandled],
      Converter.report?_of_not_isReported unhandled⟩
  | placing =>
    have notSystem : cause.kind.isSystem = false := (Bool.or_eq_false_iff.mp unhandled).1
    exact ⟨by simp [failure, Failure.ofFault, notSystem],
      Converter.report?_of_not_isReported unhandled⟩

end Stage
end InkToScreen
