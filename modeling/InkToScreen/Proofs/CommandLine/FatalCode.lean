import InkToScreen.Proofs.CommandLine.Layers
import InkToScreen.Proofs.Conversion.Course

namespace InkToScreen.CommandLine
variable {lib : Library} {environment : Environment} {words : List String} {world : World lib}

/-- The exit code that a run ends with, if it ends with one. -/
def Ending.code? : Ending → Option Int
  | returned code => some code
  | exited code => some code
  | escaped _ => none

/-- Why a run fails. -/
inductive Cause where
  | environment
  | usage
  | option
  /-- A lone `--` for the quality. -/
  | bareQuality
  | conversion
deriving DecidableEq

/-- A run fails for a cause. -/
inductive Fails (environment : Environment) (words : List String) (world : World lib) :
    Cause → Prop
  | environment (refused : environment.settings = .error error) :
      Fails environment words world .environment
  | usage (accepted : environment.settings = .ok base)
      (refused : parse words = .error (.usage error)) : Fails environment words world .usage
  | option (accepted : environment.settings = .ok base) (parsed : parse words = .ok arguments)
      (refused : arguments.options.layer base = .error (.settings error)) :
      Fails environment words world .option
  | bareQuality (accepted : environment.settings = .ok base)
      (parsed : parse words = .ok arguments) (bare : arguments.options.quality = .bare) :
      Fails environment words world .bareQuality
  | conversion (accepted : environment.settings = .ok base) (parsed : parse words = .ok arguments)
      (layered : arguments.options.layer base = .ok settings)
      (fatal : (conversion settings arguments world).result = .ok .fatalError) :
      Fails environment words world .conversion

/-- Options leave the exit codes of the settings alone. -/
theorem Options.exitCode_of_layer {options : Options} {base settings : Settings}
    (layered : options.layer base = .ok settings) (status : Status) :
    settings.exitCode status = base.exitCode status := by
  have changed : base.change options.changes = .ok settings := by
    unfold layer at layered
    split at layered
    · cases layered
    · split at layered
      · cases layered
        assumption
      · split at layered
        · cases layered
        · cases layered
      · cases layered
  rw [Settings.change_eq_settings rfl] at changed
  have asked := (Draft.settings_eq_ok_iff.mp changed).exitCodes status
  have given := (Draft.settings_eq_ok_iff.mp base.settings_draft).exitCodes status
  exact Option.some.inj (asked.symm.trans given)

/-- The exit code of a run that fails, by its cause. -/
def Cause.code? (environment : Environment) : Cause → Option Int
  | .environment => some Status.fatalError.defaultCode
  | .bareQuality => none
  | .usage | .option | .conversion => some (environment.code .fatalError)

theorem Fails.code? {cause : Cause} (fails : Fails environment words world cause) :
    (run environment words world).ending.code? = cause.code? environment := by
  unfold run
  cases fails with
  | environment refused =>
    rw [refused]
    rfl
  | usage accepted refused =>
    simp only [accepted, refused, exitCode_of_environment accepted]
    rfl
  | option accepted parsed refused =>
    simp only [accepted, parsed, refused, exitCode_of_environment accepted]
    rfl
  | bareQuality accepted parsed bare =>
    simp only [accepted, parsed, Options.layer, bare, if_true]
    rfl
  | conversion accepted parsed layered fatal =>
    simp only [accepted, parsed, layered, finish, fatal, Options.exitCode_of_layer layered,
      exitCode_of_environment accepted]
    rfl

/-- A run that fails exits with the environment's code for fatal errors, unless the environment is
refused and that code is not the usual one, or the quality is a lone `--`. -/
theorem run_fails_with_code_iff {cause : Cause} (fails : Fails environment words world cause) :
    (run environment words world).ending.code? = some (environment.code .fatalError) ↔
      cause = .usage ∨ cause = .option ∨ cause = .conversion ∨
        cause = .environment ∧ environment.code .fatalError = Status.fatalError.defaultCode := by
  rw [fails.code?]
  cases cause <;> simp [Cause.code?, eq_comm]

/-- A code that is given to fatal errors is used where no picture is there to convert. -/
theorem run_fails_with_given_code :
    (run [("CMYK2SRGB_EXIT_FATAL_ERROR", "9")] ["in.tif", "out"] (Scripted.world [])).ending.code? =
      some 9 := by
  have fails : Fails [("CMYK2SRGB_EXIT_FATAL_ERROR", "9")] ["in.tif", "out"] (Scripted.world [])
      .conversion := .conversion rfl rfl rfl rfl
  exact (run_fails_with_code_iff fails).mpr (.inr (.inr (.inl rfl)))

/-- An environment with a code for fatal errors and with a quality that is no number. -/
def misspelt : Environment :=
  [("CMYK2SRGB_EXIT_FATAL_ERROR", "9"), ("CMYK2SRGB_JPEG_QUALITY", "best")]

/-- Where a variable is refused, the usual code is used even if there is another one for fatal
errors. -/
theorem not_run_fails_with_fatal_code :
    ¬ ∀ (environment : Environment) (words : List String) (world : World Scripted.library)
      (cause : Cause),
      (∀ text, environment.text? (exitVariable .fatalError) = some text →
        Text.integer? text ≠ none) →
      Fails environment words world cause →
        (run environment words world).ending.code? = some (environment.code .fatalError) := by
  intro always
  have readable (text : String) (given : misspelt.text? (exitVariable .fatalError) = some text) :
      Text.integer? text ≠ none := by
    obtain rfl : "9" = text := Option.some.inj given
    decide +kernel
  have fails : Fails misspelt ["in.tif", "o"] (Scripted.world []) .environment := .environment rfl
  have used := always _ _ _ _ readable fails
  rw [fails.code?] at used
  revert used
  decide +kernel

end InkToScreen.CommandLine
