import InkToScreen.Proofs.CommandLine.Layers
import InkToScreen.Proofs.Conversion.Course

namespace InkToScreen.CommandLine
variable {lib : Library}

/-- No file is touched and the library is not called. -/
structure Report.IsIdle (report : Report lib) (world : World lib) : Prop where
  calls : report.calls = []
  reached : report.world = world

/-- A conversion ends a run with the exit code of its status, or with what escapes from it. -/
def Ending.ofResult (code : Status → Int) : Except Failure Status → Ending
  | .ok status => .returned (code status)
  | .error failure => .escaped failure

/-- A run does what the conversion of a file to an output name does, and nothing else. -/
structure Report.Does (report : Report lib) (environment : Environment) (converter : Converter)
    (input stem : String) (world : World lib) : Prop where
  calls : report.calls = (converter.convert input stem world).calls
  reached : report.world = (converter.convert input stem world).world
  ending : report.ending = .ofResult environment.code (converter.convert input stem world).result

/-- What a run comes to in an environment that is accepted. -/
inductive Performs (environment : Environment) (words : List String) (world : World lib)
    (report : Report lib) : Prop
  | helped (asked : parse words = .error .help) (idle : report.IsIdle world)
      (ended : report.ending = .exited 0)
  | misused (refused : parse words = .error (.usage error)) (idle : report.IsIdle world)
      (ended : report.ending = .exited (environment.code .fatalError))
  | unusable (parsed : parse words = .ok arguments) (read : classify words = .ok kinds)
      (none : ∀ settings, ¬ (layeredDraft environment (given? kinds)).IsHeldBy settings)
      (idle : report.IsIdle world)
      (ended : report.ending = .returned (environment.code .fatalError))
  | converted (parsed : parse words = .ok arguments) (read : classify words = .ok kinds)
      (operands : operandTexts kinds = [input, stem])
      (held : (layeredDraft environment (given? kinds)).IsHeldBy settings)
      (does : report.Does environment (.ofSettings settings) input stem world)

variable {environment : Environment} {words : List String} {world : World lib}

theorem finish_does {settings : Settings} {arguments : Arguments} {input stem : String}
    (code : settings.exitCode = environment.code) (isInput : arguments.input = some input)
    (isStem : arguments.stem = some stem) (world : World lib) :
    (finish settings arguments world).Does environment (.ofSettings settings) input stem world := by
  have same : conversion settings arguments =
      ((Converter.ofSettings settings).convert input stem : Run lib Status) := by
    simp only [conversion, isInput, isStem, Option.getD_some]
  unfold finish
  rw [same]
  refine ⟨rfl, rfl, ?_⟩
  rw [← code]
  unfold Ending.ofResult
  rfl

/-- In an environment that is accepted, a run comes to help, to a complaint, or to the conversion of
the two operands by settings from the command line, the environment and the defaults. -/
theorem run_performs (environment : Environment) (words : List String) (world : World lib)
    (accepted : ∃ base, environment.settings = .ok base) (undivided : Undivided words) :
    Performs environment words world (run environment words world) := by
  obtain ⟨base, isBase⟩ := accepted
  unfold run
  simp only [isBase, exitCode_of_environment isBase]
  cases parsed : parse words with
  | error stop =>
    cases stop with
    | help => exact .helped parsed ⟨rfl, rfl⟩ rfl
    | usage error => exact .misused parsed ⟨rfl, rfl⟩ rfl
  | ok arguments =>
    obtain ⟨kinds, input, stem, read, operands, isInput, isStem, reads⟩ :=
      undivided.parse_eq_ok parsed
    simp only [reads.layer_eq_settings isBase]
    cases checked : (layeredDraft environment (given? kinds)).settings with
    | error error =>
      refine .unusable parsed read ?_ ⟨rfl, rfl⟩ rfl
      intro settings held
      rw [Draft.settings_eq_ok_iff.mpr held] at checked
      cases checked
    | ok settings =>
      have held := Draft.settings_eq_ok_iff.mp checked
      have code : settings.exitCode = environment.code := funext (exitCode_of_isHeldBy held)
      exact .converted parsed read operands held (finish_does code isInput isStem world)

/-- An environment with a quality, a backstop profile and an exit code of its own. -/
def remapped : Environment :=
  [("CMYK2SRGB_JPEG_QUALITY", "80"), ("CMYK2SRGB_BACKSTOP_ICC", "backstop.icc"),
    ("CMYK2SRGB_EXIT_CMYK_NO_ICC", "33")]

def zeroQuality : List String :=
  ["--quality=0", "in.tif", "--", "out"]

/-- The quality of the command line goes first, though it is zero, and the exit code is that of the
environment. -/
theorem run_performs_zero_quality :
    Performs remapped zeroQuality (Scripted.holding { mode := "CMYK" })
        (run remapped zeroQuality (Scripted.holding { mode := "CMYK" })) ∧
      (run remapped zeroQuality (Scripted.holding { mode := "CMYK" })).ending = .returned 33 ∧
      ∃ encoded,
        (run remapped zeroQuality (Scripted.holding { mode := "CMYK" })).world.files.content?
          (.ofText "out.jpg") = some (.encoded encoded) ∧ encoded.options.quality = 0 := by
  have undivided : Undivided zeroQuality := by
    refine ⟨by decide, ?_⟩
    intro kinds setting read member
    have same : classify zeroQuality =
        .ok [.long (.setting .quality) (some "0"), .plain "in.tif", .divider, .plain "out"] := rfl
    rw [same] at read
    cases read
    simp at member
  have accepted : ∃ base, remapped.settings = .ok base := ⟨_, rfl⟩
  exact ⟨run_performs remapped _ _ accepted undivided, by decide +kernel, ⟨_, rfl, rfl⟩⟩

end InkToScreen.CommandLine
