import InkToScreen.Imaging.Scripted
import InkToScreen.Proofs.Conversion.RenderingTranscripts
import InkToScreen.Proofs.Conversion.Storing

/-! The course of a conversion, from the output name to the stored picture. Every conversion takes
one course, whose verdict and whose last world are those of the run. -/
namespace InkToScreen
variable {lib : Library}

/-- An output name that a conversion takes: there is one, and it leaves room for its extension. -/
def Settings.Accepts (settings : Settings) (stem : String) : Prop :=
  stem ≠ "" ∧ (stem.utf8ByteSize : Int) ≤ settings.maxStemLength

/-- How a conversion turns out, before it is reported. -/
inductive Verdict (lib : Library) where
  | refused (error : ConversionError)
  | stopped (stage : Stage) (cause : Fault)
  | spared
  | converted (result : Transformed lib)

/-- What a conversion returns after a verdict: a status, or a fault that no stage handles. -/
def Verdict.result : Verdict lib → Except Failure Status
  | refused _ => .ok .fatalError
  | stopped stage cause =>
    if stage.handles cause.kind then .ok .fatalError else .error (.fault cause)
  | spared => .ok .probablyNotCmyk
  | converted result => .ok result.source.status

theorem Verdict.converted_of_result {verdict : Verdict lib} {source : ProfileSource}
    (returned : verdict.result = .ok source.status) :
    ∃ result, verdict = .converted result ∧ result.source = source := by
  cases verdict with
  | refused error => cases source <;> cases returned
  | spared => cases source <;> cases returned
  | stopped stage cause =>
    simp only [result] at returned
    split at returned
    · cases source <;> cases returned
    · cases returned
  | converted result =>
    exact ⟨result, rfl, ProfileSource.status_injective (Except.ok.inj returned)⟩

namespace Converter

def output (converter : Converter) (stem : String) : Path :=
  .ofText (converter.settings.outputName stem)

/-- The course that a conversion takes. -/
inductive Course (converter : Converter) (input : Path) (stem : String) (before : World lib) :
    Verdict lib → World lib → Prop
  | refused (faulty : stemError? converter.settings stem = some error) :
      Course converter input stem before (.refused error) before
  | unopened (accepted : converter.settings.Accepts stem)
      (opening : Input.Opens input before (.error cause) after) :
      Course converter input stem before (.stopped .opening cause) after
  | spared (accepted : converter.settings.Accepts stem)
      (opening : Input.Opens input before (.ok image) after)
      (other : (lib.header image).mode ≠ "CMYK") :
      Course converter input stem before .spared after
  | untransformed (accepted : converter.settings.Accepts stem)
      (opening : Input.Opens input before (.ok image) between)
      (inks : (lib.header image).mode = "CMYK")
      (transformed : converter.plan.Transforms (.ofImage input image between.files) between
        (.error (stage, cause)) after) :
      Course converter input stem before (.stopped stage cause) after
  | unstored (accepted : converter.settings.Accepts stem)
      (opening : Input.Opens input before (.ok image) between)
      (inks : (lib.header image).mode = "CMYK")
      (transformed : converter.plan.Transforms (.ofImage input image between.files) between
        (.ok result) made)
      (stored : Jpeg.Stores converter.quality result.image (converter.output stem)
        (some result.profile) (lib.header image).exif made (.error (stage, cause)) after) :
      Course converter input stem before (.stopped stage cause) after
  | converted (accepted : converter.settings.Accepts stem)
      (opening : Input.Opens input before (.ok image) between)
      (inks : (lib.header image).mode = "CMYK")
      (transformed : converter.plan.Transforms (.ofImage input image between.files) between
        (.ok result) made)
      (stored : Jpeg.Stores converter.quality result.image (converter.output stem)
        (some result.profile) (lib.header image).exif made (.ok ()) after) :
      Course converter input stem before (.converted result) after

end Converter

/-- What the attempt at a conversion returns after a verdict. -/
def Verdict.attempted (plan : Plan) (input output : Path) : Verdict lib → Except Failure Status
  | refused error => .error (.conversion error)
  | stopped stage cause => .error (stage.failure plan input output cause)
  | spared => .ok .probablyNotCmyk
  | converted result => .ok result.source.status

namespace Converter
variable {converter : Converter} {input : Path} {stem : String} {before between after : World lib}
  {verdict : Verdict lib}

theorem stemError?_eq_none_iff {settings : Settings} :
    stemError? settings stem = none ↔ settings.Accepts stem := by
  unfold stemError? Settings.Accepts
  by_cases empty : stem = ""
  · simp [empty]
  · by_cases long : settings.maxStemLength < stem.utf8ByteSize
    · simp [empty, long]
    · simp [empty, long, Int.not_lt.mp long]

theorem Course.total (converter : Converter) (input : Path) (stem : String) (before : World lib) :
    ∃ verdict after, converter.Course input stem before verdict after := by
  cases faulty : stemError? converter.settings stem with
  | some error => exact ⟨_, _, .refused faulty⟩
  | none =>
    have accepted := stemError?_eq_none_iff.mp faulty
    obtain ⟨given, between, opening⟩ := Input.Opens.total input before
    cases given with
    | error cause => exact ⟨_, _, .unopened accepted opening⟩
    | ok image =>
      by_cases inks : (lib.header image).mode = "CMYK"
      · obtain ⟨given, made, transformed⟩ := Plan.Transforms.total converter.plan
          (.ofImage input image between.files) between
        cases given with
        | error stopped => exact ⟨_, _, .untransformed accepted opening inks transformed⟩
        | ok result =>
          obtain ⟨given, after, stored⟩ := Jpeg.Stores.total converter.quality result.image
            (converter.output stem) (some result.profile) (lib.header image).exif made
          cases given with
          | error stopped => exact ⟨_, _, .unstored accepted opening inks transformed stored⟩
          | ok _ => exact ⟨_, _, .converted accepted opening inks transformed stored⟩
      · exact ⟨_, _, .spared accepted opening inks⟩

section Runs
variable {image : lib.Image} {files : Files lib.Content}

theorem isCmyk_ofImage :
    (Input.ofImage input image files).isCmyk = true ↔ (lib.header image).mode = "CMYK" := by
  rw [Input.isCmyk, beq_iff_eq]
  exact Interpretation.ofMode_eq_cmyk_iff _

private theorem produce_ends_untransformed {stage : Stage} {cause : Fault}
    (transformed : converter.plan.Transforms (.ofImage input image files) between
      (.error (stage, cause)) after) :
    (converter.produce (.ofImage input image files)
      (converter.settings.outputName stem)).Ends between
        (.error (stage.failure converter.plan input (converter.output stem) cause)) after :=
  (transformed.ends (converter.output stem)).bind_error

private theorem produce_ends {result : Transformed lib} {made : World lib}
    {given : Except (Stage × Fault) Unit}
    (transformed : converter.plan.Transforms (.ofImage input image files) between (.ok result) made)
    (stored : Jpeg.Stores converter.quality result.image (converter.output stem)
      (some result.profile) (lib.header image).exif made given after) :
    (converter.produce (.ofImage input image files)
      (converter.settings.outputName stem)).Ends between
        ((given.map fun _ => result).mapError fun stopped =>
          stopped.1.failure converter.plan input (converter.output stem) stopped.2) after := by
  refine (transformed.ends (converter.output stem)).bind (Run.Ends.ensuring_close .result _ ?_)
  have ended := stored.ends converter.plan input
  cases given with
  | error stopped => exact ended.bind_error
  | ok _ => exact ended.bind (Run.ends_pure result after)

private theorem work_ends {made : Except Failure (Transformed lib)}
    (inks : (lib.header image).mode = "CMYK")
    (produced : (converter.produce (.ofImage input image files)
      (converter.settings.outputName stem)).Ends between made after) :
    (converter.work (converter.settings.outputName stem) (.ofImage input image files)).Ends between
      (made.map some) after := by
  unfold work
  rw [if_pos (isCmyk_ofImage.mpr inks)]
  cases made with
  | error failure => exact produced.map_error
  | ok result => exact produced.map

private theorem attempt_ends_of_work {made : Except Failure (Option (Transformed lib))}
    (accepted : converter.settings.Accepts stem)
    (opening : Input.Opens input before (.ok image) between)
    (worked : (converter.work (converter.settings.outputName stem)
      (.ofImage input image between.files)).Ends between made after) :
    (converter.attempt input stem).Ends before
      (made.map fun
        | none => .probablyNotCmyk
        | some result => result.source.status) after := by
  unfold attempt
  rw [stemError?_eq_none_iff.mpr accepted]
  have used := Input.use_ends opening worked
  cases made with
  | error failure => exact used.bind_error
  | ok made =>
    refine used.bind ?_
    cases made with
    | none => exact Run.ends_pure _ after
    | some result => exact (Run.ends_note _ after).bind (Run.ends_pure _ after)

/-- The attempt at a conversion ends with what the verdict of its course comes to. -/
theorem Course.attempt_ends (taken : converter.Course input stem before verdict after) :
    (converter.attempt input stem).Ends before
      (verdict.attempted converter.plan input (converter.output stem)) after := by
  cases taken with
  | refused faulty =>
    unfold attempt
    rw [faulty]
    exact Run.ends_fail _ before
  | unopened accepted opening =>
    unfold attempt
    rw [stemError?_eq_none_iff.mpr accepted]
    exact (Input.use_ends_error opening).bind_error
  | @spared image _ accepted opening other =>
    have worked : (converter.work (converter.settings.outputName stem)
        (.ofImage input image after.files)).Ends after (.ok none) after := by
      unfold work
      rw [if_neg fun inks => other (isCmyk_ofImage.mp inks)]
      exact (Run.ends_note _ after).bind (Run.ends_pure none after)
    exact attempt_ends_of_work accepted opening worked
  | untransformed accepted opening inks transformed =>
    exact attempt_ends_of_work accepted opening
      (work_ends inks (produce_ends_untransformed transformed))
  | unstored accepted opening inks transformed stored =>
    exact attempt_ends_of_work accepted opening (work_ends inks (produce_ends transformed stored))
  | converted accepted opening inks transformed stored =>
    exact attempt_ends_of_work accepted opening (work_ends inks (produce_ends transformed stored))

end Runs

/-- No fault of the picture's own profile both stops a conversion and is handled: one that a profile
can cause makes the backstop profile take its place. -/
theorem Course.outer_of_handles {stage : Stage} {cause : Fault}
    (taken : converter.Course input stem before (.stopped stage cause) after)
    (handled : stage.handles cause.kind = true) : stage ≠ .embedded := by
  rintro rfl
  rw [Stage.handles] at handled
  cases taken with
  | untransformed accepted opening inks transformed =>
    rw [transformed.stops.2 rfl] at handled
    cases handled
  | unstored accepted opening inks transformed stored => cases stored

theorem convert_ends_of_report {text : String} {failure : Failure} {notice : Notice}
    (attempted : (converter.attempt (.ofText text) stem).Ends before (.error failure) after)
    (reported : report? text failure = some notice) :
    (converter.convert text stem).Ends before (.ok .fatalError) after := by
  unfold convert
  refine attempted.reify.bind ?_
  simp only [reported]
  exact (Run.ends_note notice after).bind (Run.ends_pure _ after)

/-- A conversion ends with the result of the verdict of its course. -/
theorem Course.convert_ends {text : String}
    (taken : converter.Course (.ofText text) stem before verdict after) :
    (converter.convert text stem).Ends before verdict.result after := by
  have attempted := taken.attempt_ends
  cases verdict with
  | refused error => exact convert_ends_of_report attempted rfl
  | spared => exact attempted.reify.bind (Run.ends_pure _ after)
  | converted result => exact attempted.reify.bind (Run.ends_pure _ after)
  | stopped stage cause =>
    cases handled : stage.handles cause.kind with
    | true =>
      have outer := taken.outer_of_handles handled
      obtain ⟨notice, reported, _⟩ := stage.report?_failure outer handled
      simp only [Verdict.result, handled, if_true]
      exact convert_ends_of_report attempted reported
    | false =>
      obtain ⟨same, unreported⟩ :
          stage.failure converter.plan (.ofText text) (converter.output stem) cause =
            .fault cause ∧ report? text (.fault cause) = none :=
        stage.failure_of_not_handles handled
      simp only [Verdict.attempted, same] at attempted
      simp only [Verdict.result, handled, Bool.false_eq_true, if_false]
      refine attempted.reify.bind ?_
      simp only [unreported]
      exact Run.ends_fail _ after

end Converter

namespace Scripted

def converter : Converter :=
  .ofSettings .usual (some ⟨.ofText "backstop.icc", none, .relative⟩)

/-- A world with a picture to convert and a backstop profile that any picture can be converted
with. -/
def holding (image : Image) : World library :=
  world [("in.tif", .picture image 64), ("backstop.icc", .profile { name := "ink" } 64)]

end Scripted
end InkToScreen
