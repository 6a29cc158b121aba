import InkToScreen.Proofs.Conversion.Reports
import InkToScreen.Proofs.Text.Spellings

namespace InkToScreen

namespace Settings
variable {settings : Settings} {stem : String}

/-- A path of the greatest length has room for a stem with its dot and extension and for the seven
bytes of the longest quality directive. -/
structure Fits (settings : Settings) (stem : String) : Prop where
  named : stem ≠ ""
  room : stem.utf8ByteSize + 1 + settings.extension.utf8ByteSize + 7 ≤ settings.pathMax

/-- The line about a stem that is refused: there is none, or it is too long. The bytes left for a
stem may be fewer than none. -/
inductive Objects (settings : Settings) (stem : String) : String → Prop
  | empty (unnamed : stem = "") :
      Objects settings stem "ERROR Output name must not be empty (invalid-arguments)"
  | long (named : stem ≠ "")
      (exceeds : settings.pathMax < stem.utf8ByteSize + 1 + settings.extension.utf8ByteSize + 7) :
      Objects settings stem ("ERROR Output name is " ++ toString stem.utf8ByteSize ++
        " bytes long; at most " ++
          toString ((settings.pathMax : Int) - (1 + settings.extension.utf8ByteSize + 7)) ++
            " fit with the extension (output-path-too-long)")

theorem maxStemLength_eq (settings : Settings) :
    settings.maxStemLength =
      (settings.pathMax : Int) - (1 + settings.extension.utf8ByteSize + 7) := by
  have margin : directiveMargin = 7 := by decide +kernel
  rw [maxStemLength, margin]
  omega

theorem accepts_iff_fits : settings.Accepts stem ↔ settings.Fits stem := by
  unfold Accepts
  rw [maxStemLength_eq]
  constructor
  · rintro ⟨named, short⟩
    exact ⟨named, by omega⟩
  · rintro ⟨named, room⟩
    exact ⟨named, by omega⟩

theorem utf8ByteSize_outputName (settings : Settings) (stem : String) :
    (settings.outputName stem).utf8ByteSize =
      stem.utf8ByteSize + 1 + settings.extension.utf8ByteSize := by
  have dot : ".".utf8ByteSize = 1 := by decide +kernel
  rw [outputName, String.utf8ByteSize_append, String.utf8ByteSize_append, dot]

/-- A path limit below that of one letter with its extension leaves no stem. -/
theorem not_fits_of_narrow
    (narrow : settings.pathMax ≤ 11 ∨ settings.pathMax ≤ 12 ∧ settings.extension.length = 4) :
    ¬ settings.Fits stem := by
  rintro ⟨named, room⟩
  have some : stem.utf8ByteSize ≠ 0 := fun none => named (String.utf8ByteSize_eq_zero_iff.mp none)
  obtain ⟨bytes, letters⟩ := size_of_isJpegExtension settings.extension_jpeg
  omega

end Settings

/-- A stage that fails does not blame the output name. -/
theorem Stage.reason_of_failure {stage : Stage} {plan : Plan} {input output : Path}
    {cause : Fault} {error : ConversionError}
    (failed : stage.failure plan input output cause = .conversion error) :
    error.reason ≠ .invalidArguments ∧ error.reason ≠ .outputPathTooLong := by
  cases stage with
  | opening | builtinTarget | profileBytes | embedded => cases failed
  | decoding | target profile | backstop | transform | placing | writing =>
    simp only [failure, Failure.ofFault] at failed
    split at failed
    · cases failed
      simp [ConversionError.reason]
    · cases failed

namespace Converter
variable {lib : Library} {converter : Converter} {settings : Settings} {input stem : String}
  {before : World lib}

/-- A conversion gets past the check of its output name: no notice gives a reason that the check
gives. -/
def TakesName (converter : Converter) (input stem : String) (before : World lib) : Prop :=
  ∀ notice ∈ (converter.convert input stem before).notices,
    notice.reason? ≠ some .invalidArguments ∧ notice.reason? ≠ some .outputPathTooLong

private theorem line_emptyName :
    (Notice.gaveUp .emptyName).line =
      "ERROR Output name must not be empty (invalid-arguments)" := by
  decide +kernel

private theorem longName_words (size limit : String) :
    "ERROR " ++ ("Output name is " ++ size ++ " bytes long; at most " ++ limit ++
        " fit with the extension" ++ " (" ++ Reason.outputPathTooLong.name ++ ")") =
      "ERROR Output name is " ++ size ++ " bytes long; at most " ++ limit ++
        " fit with the extension (output-path-too-long)" := by
  have head : "ERROR Output name is " = "ERROR " ++ "Output name is " := by decide +kernel
  have tail : " fit with the extension (output-path-too-long)" =
      " fit with the extension" ++ (" (" ++ (Reason.outputPathTooLong.name ++ ")")) := by
    decide +kernel
  rw [head, tail]
  simp only [String.append_assoc]

private theorem line_longName (size : Nat) (limit : Int) :
    (Notice.gaveUp (.longName size limit)).line =
      "ERROR Output name is " ++ toString size ++ " bytes long; at most " ++ toString limit ++
        " fit with the extension (output-path-too-long)" := by
  have stated : (Notice.gaveUp (.longName size limit)).reason? = some .outputPathTooLong := rfl
  exact (Notice.line_of_reason stated).2.trans (longName_words (toString size) (toString limit))

/-- An error about an output name becomes the line of the objection to it. -/
theorem objects_of_stemError? {error : ConversionError}
    (faulty : stemError? settings stem = some error) :
    settings.Objects stem (Notice.gaveUp error).line := by
  unfold stemError? at faulty
  split at faulty
  · rename_i unnamed
    cases faulty
    rw [line_emptyName]
    exact .empty unnamed
  · rename_i named
    split at faulty
    · rename_i long
      cases faulty
      rw [Settings.maxStemLength_eq] at long ⊢
      rw [line_longName]
      exact .long named (by omega)
    · cases faulty

/-- A failure that is reported is blamed on the input, unless it states its reason itself. -/
theorem report?_cases {failure : Failure} {notice : Notice}
    (reported : report? input failure = some notice) :
    notice.reason? = some .inputUnreadable ∨
      ∃ error, failure = .conversion error ∧ notice = .gaveUp error := by
  cases failure with
  | conversion error =>
    cases reported
    exact .inr ⟨error, rfl, rfl⟩
  | fault cause =>
    simp only [report?] at reported
    split at reported
    · cases reported
      exact .inl rfl
    · split at reported
      · cases reported
        exact .inl rfl
      · cases reported

theorem takesName_of_fits (fits : converter.settings.Fits stem) :
    converter.TakesName input stem before := by
  obtain ⟨verdict, after, taken⟩ := Course.total converter (.ofText input) stem before
  have attempted := taken.attempt_ends.1
  intro notice member
  rw [convert_notices] at member
  rcases List.mem_append.mp member with early | last
  · have mild := attempt_mild converter (.ofText input) stem before notice early
    cases stated : notice.reason? with
    | none => simp
    | some reason => exact absurd (Notice.line_of_reason stated).1 mild
  · rw [attempted] at last
    cases verdict with
    | spared | converted result => simp [Verdict.attempted] at last
    | refused error =>
      exact absurd (Settings.accepts_iff_fits.mpr fits) (taken.refused_iff.mp ⟨error, rfl⟩)
    | stopped stage cause =>
      obtain stated | ⟨error, failed, rfl⟩ := report?_cases (Option.mem_toList.mp last)
      · simp [stated]
      · simpa [Notice.reason?] using stage.reason_of_failure failed

/-- A stem that is refused ends a conversion before it has begun. -/
theorem convert_of_refused {error : ConversionError}
    (faulty : stemError? converter.settings stem = some error) :
    converter.convert input stem before =
      { result := .ok .fatalError, world := before, notices := [.gaveUp error], calls := [] } := by
  unfold convert attempt
  rw [faulty]
  rfl

/-- A stem is taken exactly when there is one and a path has room for its bytes; any other ends the
conversion with one line, before anything is touched. -/
theorem convert_checks_name (converter : Converter) (stem : String) :
    (∀ (input : String) (before : World lib),
      converter.TakesName input stem before ↔ converter.settings.Fits stem) ∧
    (stem ≠ "" → (converter.settings.Fits stem ↔
      (converter.settings.outputName stem).utf8ByteSize + 7 ≤ converter.settings.pathMax)) ∧
    (converter.settings.pathMax ≤ 11 ∨
        converter.settings.pathMax ≤ 12 ∧ converter.settings.extension.length = 4 →
      ¬ converter.settings.Fits stem) ∧
    (¬ converter.settings.Fits stem →
      ∃ notice : Notice, converter.settings.Objects stem notice.line ∧
        ∀ (input : String) (before : World lib), converter.convert input stem before =
          { result := .ok .fatalError, world := before, notices := [notice], calls := [] }) := by
  have refusal (unfit : ¬ converter.settings.Fits stem) :
      ∃ error, stemError? converter.settings stem = some error := by
    rw [← Settings.accepts_iff_fits, ← stemError?_eq_none_iff] at unfit
    exact Option.ne_none_iff_exists'.mp unfit
  refine ⟨fun input before => ⟨fun taken => ?_, takesName_of_fits⟩, fun named => ?_,
    Settings.not_fits_of_narrow, fun unfit => ?_⟩
  · by_contra unfit
    obtain ⟨error, faulty⟩ := refusal unfit
    have blamed := taken (.gaveUp error) (by rw [convert_of_refused faulty]; simp)
    obtain ⟨empty, long⟩ := stemError?_reason faulty
    by_cases named : stem = ""
    · exact blamed.1 (congrArg some (empty.mpr named))
    · have exceeds : converter.settings.maxStemLength < stem.utf8ByteSize := by
        by_contra short
        exact unfit (Settings.accepts_iff_fits.mp ⟨named, Int.not_lt.mp short⟩)
      exact blamed.2 (congrArg some (long.mpr ⟨named, exceeds⟩))
  · rw [Settings.utf8ByteSize_outputName]
    exact ⟨fun fits => fits.room, fun room => ⟨named, room⟩⟩
  · obtain ⟨error, faulty⟩ := refusal unfit
    exact ⟨.gaveUp error, objects_of_stemError? faulty, fun _ _ => convert_of_refused faulty⟩

end Converter
end InkToScreen
