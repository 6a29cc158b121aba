import Mathlib.Control.Monad.Basic
import InkToScreen.Proofs.Conversion.Failures
import InkToScreen.Proofs.Conversion.Mild
import InkToScreen.Proofs.Files.CleanNames

namespace InkToScreen
variable {lib : Library}

theorem Notice.line_of_reason {notice : Notice} {reason : Reason}
    (stated : notice.reason? = some reason) :
    notice.level = .error ∧
      notice.line = "ERROR " ++ (notice.text ++ " (" ++ reason.name ++ ")") := by
  have severe : notice.level = .error := by
    cases notice with
    | gaveUp error => rfl
    | unusableInput cause => rfl
    | unreadableInput input cause => rfl
    | _ => cases stated
  have label : Level.error.name ++ " " = "ERROR " := by decide
  refine ⟨severe, ?_⟩
  simp only [line, message, stated, severe, label]

/-- Notices without an error but for the last one, whose line ends with a reason. -/
inductive Notice.Blame (reason : Reason) : List Notice → Prop
  | intro (mild : ∀ other ∈ earlier, other.level ≠ .error) (severe : notice.level = .error)
      (line : notice.line = "ERROR " ++ (notice.text ++ " (" ++ reason.name ++ ")")) :
      Blame reason (earlier ++ [notice])

theorem Notice.Blame.error_mem {reason : Reason} {notices : List Notice}
    (blame : Blame reason notices) : ∃ notice ∈ notices, notice.level = .error := by
  cases blame with
  | intro mild severe line => exact ⟨_, List.mem_append_right _ List.mem_cons_self, severe⟩

/-- A stage other than that of the picture's own profile stands for a reason, which is none of an
output name. -/
theorem Stage.label?_cases {stage : Stage} (outer : stage ≠ .embedded) :
    ∃ reason, stage.label? = some reason ∧ reason ≠ .invalidArguments ∧
      reason ≠ .outputPathTooLong := by
  cases stage with
  | embedded => exact absurd rfl outer
  | _ => exact ⟨_, rfl, by simp, by simp⟩

namespace Converter
variable {converter : Converter} {input : Path} {stem text : String} {before after : World lib}
  {verdict : Verdict lib} {stage : Stage} {cause : Fault} {failure : Failure} {notice : Notice}

/-- A conversion gives the notices of its attempt, and one more if that ends in a failure that is
reported. -/
theorem convert_notices (converter : Converter) (text stem : String) (before : World lib) :
    (converter.convert text stem before).notices =
      (converter.attempt (.ofText text) stem before).notices ++
        match (converter.attempt (.ofText text) stem before).result with
        | .ok _ => []
        | .error failure => (report? text failure).toList := by
  change (Run.bind (Run.reify (converter.attempt (.ofText text) stem)) _ before).notices = _
  simp only [Run.bind, Run.reify]
  cases (converter.attempt (.ofText text) stem before).result with
  | ok status => rfl
  | error failure =>
    cases reported : report? text failure with
    | none => simp [reported, Run.fail]
    | some notice => simp [reported]; rfl

/-- A scratch file beside an output path without the character that no path may hold is refused by
the system only. -/
theorem Course.isSystem_of_placing (clean : hasNul (converter.settings.outputName stem) = false)
    (taken : converter.Course input stem before (.stopped .placing cause) after) :
    cause.kind.isSystem = true := by
  cases taken with
  | untransformed accepted opening inks transformed => exact absurd rfl transformed.stops.1.1
  | unstored accepted opening inks transformed stored =>
    cases stored with
    | unplaced refused =>
      exact Files.isSystem_of_scratch_error
        (Path.noNul_parts_parent (Path.noNul_parts_ofText clean)) refused

theorem stemError?_reason {settings : Settings} {error : ConversionError}
    (faulty : stemError? settings stem = some error) :
    (error.reason = .invalidArguments ↔ stem = "") ∧
      (error.reason = .outputPathTooLong ↔
        stem ≠ "" ∧ settings.maxStemLength < stem.utf8ByteSize) := by
  unfold stemError? at faulty
  split at faulty
  · rename_i empty
    cases faulty
    simp [ConversionError.reason, empty]
  · rename_i named
    split at faulty
    · rename_i long
      cases faulty
      simp [ConversionError.reason, named, long]
    · cases faulty

theorem convert_eq_fatalError_of_error
    (member : notice ∈ (converter.convert text stem before).notices)
    (severe : notice.level = .error) :
    (converter.convert text stem before).result = .ok .fatalError := by
  rw [convert_notices] at member
  rcases List.mem_append.mp member with early | last
  · exact absurd severe (attempt_mild converter (.ofText text) stem before notice early)
  · cases attempted : (converter.attempt (.ofText text) stem before).result with
    | ok status =>
      simp only [attempted] at last
      cases last
    | error failure =>
      simp only [attempted, Option.mem_toList] at last
      exact (convert_ends_of_report ⟨attempted, rfl⟩ last).1

private theorem blame_of_report {reason : Reason}
    (attempted : (converter.attempt (.ofText text) stem before).result = .error failure)
    (reported : report? text failure = some notice) (stated : notice.reason? = some reason) :
    Notice.Blame reason (converter.convert text stem before).notices := by
  obtain ⟨severe, line⟩ := Notice.line_of_reason stated
  rw [convert_notices]
  simp only [attempted, reported]
  exact .intro (attempt_mild converter (.ofText text) stem before) severe line

private theorem StopsAt.blame (clean : hasNul (converter.settings.outputName stem) = false)
    (stops : converter.StopsAt (.ofText text) stem before stage cause)
    (handled : stage.handles cause.kind = true) :
    stage ≠ .embedded ∧ ∃ failure notice,
      (converter.attempt (.ofText text) stem before).result = .error failure ∧
        report? text failure = some notice ∧ notice.reason? = stage.label? := by
  obtain ⟨after, taken⟩ := stops
  have outer := taken.outer_of_handles handled
  -- a value fault where the scratch file is made would be blamed on the input
  have notPlacing : ¬ (stage = .placing ∧ cause.kind = .value) := by
    rintro ⟨rfl, isValue⟩
    have isSystem := taken.isSystem_of_placing clean
    rw [isValue] at isSystem
    cases isSystem
  obtain ⟨notice, reported, stated⟩ := stage.report?_failure outer handled
  exact ⟨outer, _, notice, taken.attempt_ends.1, reported, stated.resolve_right notPlacing⟩

private theorem StopsAt.label?_eq {other : Stage} {otherCause : Fault}
    (clean : hasNul (converter.settings.outputName stem) = false)
    (stops : converter.StopsAt (.ofText text) stem before stage cause)
    (handled : stage.handles cause.kind = true)
    (also : converter.StopsAt (.ofText text) stem before other otherCause) :
    other.label? = stage.label? := by
  have failed := also.convert_eq.symm.trans stops.convert_eq
  rw [if_pos handled] at failed
  split at failed
  · rename_i otherHandled
    obtain ⟨_, failure, notice, attempted, reported, stated⟩ := stops.blame clean handled
    obtain ⟨_, _, _, attemptedAlso, reportedAlso, statedAlso⟩ := also.blame clean otherHandled
    cases attempted.symm.trans attemptedAlso
    cases reported.symm.trans reportedAlso
    exact statedAlso.symm.trans stated
  · cases failed

/-- A course that ends with a failure ends with the one error, for the reason of the failure. -/
private theorem Course.blame (clean : hasNul (converter.settings.outputName stem) = false)
    (taken : converter.Course (.ofText text) stem before verdict after)
    (failed : verdict.result = .ok .fatalError) :
    ∃ reason, Notice.Blame reason (converter.convert text stem before).notices ∧
      (reason = .invalidArguments ↔ stem = "") ∧
      (reason = .outputPathTooLong ↔
        stem ≠ "" ∧ converter.settings.maxStemLength < stem.utf8ByteSize) ∧
      (converter.settings.Accepts stem →
        (∃ stage cause, converter.StopsAt (.ofText text) stem before stage cause) ∧
        ∀ stage cause, converter.StopsAt (.ofText text) stem before stage cause →
          stage.label? = some reason) := by
  rcases Verdict.result_eq_fatalError_iff.mp failed with ⟨error, rfl⟩ | ⟨stage, cause, rfl, handled⟩
  · have attempted := taken.attempt_ends.1
    cases taken with
    | refused faulty =>
      obtain ⟨empty, long⟩ := stemError?_reason faulty
      refine ⟨error.reason, blame_of_report attempted rfl rfl, empty, long, fun accepted => ?_⟩
      rw [stemError?_eq_none_iff.mpr accepted] at faulty
      cases faulty
  · have stops : converter.StopsAt (.ofText text) stem before stage cause := ⟨after, taken⟩
    have accepted : converter.settings.Accepts stem := by
      by_contra unaccepted
      obtain ⟨error, impossible⟩ := taken.refused_iff.mpr unaccepted
      cases impossible
    obtain ⟨outer, failure, notice, attempted, reported, stated⟩ := stops.blame clean handled
    obtain ⟨reason, label, notEmpty, notLong⟩ := Stage.label?_cases outer
    refine ⟨reason, blame_of_report attempted reported (stated.trans label), ?_, ?_, fun _ => ?_⟩
    · exact iff_of_false notEmpty accepted.1
    · exact iff_of_false notLong fun ⟨_, long⟩ => absurd accepted.2 (Int.not_le.mpr long)
    · refine ⟨⟨stage, cause, stops⟩, fun other otherCause also => ?_⟩
      exact (stops.label?_eq clean handled also).trans label

/-- A conversion gives an error notice exactly when it is a failure, once and at the end. Its reason
is that of the output name, or that of the stage which stops the conversion. -/
theorem convert_reports (converter : Converter) (input stem : String) (before : World lib)
    (clean : hasNul (converter.settings.outputName stem) = false) :
    ((∃ notice ∈ (converter.convert input stem before).notices, notice.level = .error) ↔
      (converter.convert input stem before).result = .ok .fatalError) ∧
    ((converter.convert input stem before).result = .ok .fatalError →
      ∃ reason, Notice.Blame reason (converter.convert input stem before).notices ∧
        (reason = .invalidArguments ↔ stem = "") ∧
        (reason = .outputPathTooLong ↔
          stem ≠ "" ∧ converter.settings.maxStemLength < stem.utf8ByteSize) ∧
        (converter.settings.Accepts stem →
          (∃ stage cause, converter.StopsAt (.ofText input) stem before stage cause) ∧
          ∀ stage cause, converter.StopsAt (.ofText input) stem before stage cause →
            stage.label? = some reason)) := by
  obtain ⟨verdict, after, taken⟩ := Course.total converter (.ofText input) stem before
  have ended := taken.convert_ends.1
  have blamed (failed : (converter.convert input stem before).result = .ok .fatalError) :=
    taken.blame clean (ended.symm.trans failed)
  refine ⟨⟨?_, fun failed => ?_⟩, blamed⟩
  · rintro ⟨notice, member, severe⟩
    exact convert_eq_fatalError_of_error member severe
  · obtain ⟨reason, blame, _⟩ := blamed failed
    obtain ⟨notice, member, severe⟩ := blame.error_mem
    exact ⟨notice, member, severe⟩

end Converter

namespace Scripted

def unreadable : Image where
  mode := "CMYK"
  loadFault := some (.reported .system "image file is truncated")

/-- Pixels that cannot be read are blamed at the end of the notices. -/
theorem convert_blames_unreadable :
    hasNul (converter.settings.outputName "out") = false ∧
      (converter.convert "in.tif" "out" (holding unreadable)).result = .ok .fatalError ∧
        ∃ reason, Notice.Blame reason
          (converter.convert "in.tif" "out" (holding unreadable)).notices := by
  have clean : hasNul (converter.settings.outputName "out") = false := by decide +kernel
  have failed : (converter.convert "in.tif" "out" (holding unreadable)).result =
      .ok .fatalError := by
    decide +kernel
  obtain ⟨reason, blame, _⟩ :=
    (Converter.convert_reports converter "in.tif" "out" (holding unreadable) clean).2 failed
  exact ⟨clean, failed, reason, blame⟩

end Scripted
end InkToScreen
