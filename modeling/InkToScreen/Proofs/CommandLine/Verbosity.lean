import InkToScreen.CommandLine.Session
import InkToScreen.Proofs.CommandLine.Given
import InkToScreen.Proofs.Conversion.Course

namespace InkToScreen.CommandLine

def Options.loud (options : Options) : Options :=
  { options with verbose := true }

def Reading.loud (reading : Reading) : Reading :=
  { reading with options := reading.options.loud }

def Arguments.loud (arguments : Arguments) : Arguments :=
  { arguments with options := arguments.options.loud }

section Readings
variable {reading : Reading} {margin : Margin}

theorem Options.give_loud (options : Options) (setting : Setting) (text : String) :
    options.loud.give setting text = (options.give setting text).map loud := by
  cases setting with
  | backstop | srgb | extension => rfl
  | quality =>
    unfold give
    by_cases bare : text = "--"
    · simp only [bare, if_true]
      rfl
    · simp only [bare, if_false]
      cases Text.integer? text <;> rfl
  | intent =>
    unfold give
    by_cases bare : text = "--"
    · simp only [bare, if_true]
      rfl
    · simp only [bare, if_false]
      cases Intent.ofName? text <;> rfl

theorem Reading.give_loud (setting : Setting) (text : String) :
    reading.loud.give setting text = (reading.give setting text).map loud := by
  unfold give
  rw [loud, Options.give_loud]
  cases reading.options.give setting text <;> rfl

theorem Reading.raise_loud (flags : List Flag) :
    reading.loud.raise flags = (reading.raise flags).map loud := by
  induction flags generalizing reading with
  | nil => rfl
  | cons flag rest ih =>
    cases flag with
    | help => rfl
    | verbose => exact ih

theorem Reading.raiseLetter_loud (flag : Flag) (attached : Option String) :
    reading.loud.raiseLetter flag attached = (reading.raiseLetter flag attached).map loud := by
  unfold raiseLetter
  split
  · exact raise_loud _
  · rfl
  · split
    · exact raise_loud _
    · rfl

theorem Reading.settle_loud : reading.loud.settle margin = (reading.settle margin).loud := by
  cases margin <;> rfl

/-- What follows a step that commutes with the flag commutes with it too. -/
private theorem bind_loud {answer changed : Except Stop Reading}
    {next : Reading → Except Stop Reading} (step : changed = answer.map Reading.loud)
    (rest : ∀ reached, next reached.loud = (next reached).map Reading.loud) :
    (changed >>= next) = (answer >>= next).map Reading.loud := by
  subst step
  cases answer with
  | error stop => rfl
  | ok reached => exact rest reached

theorem Reading.run_loud (kinds : List Word) :
    reading.loud.run margin kinds = (reading.run margin kinds).map loud := by
  fun_induction Reading.run reading margin kinds with
  | case1 reading margin =>
    unfold run
    rw [settle_loud]
    rfl
  | case2 reading margin text rest hasRoom ih =>
    rw [← ih, run]
    exact if_pos hasRoom
  | case3 reading margin text rest full ih =>
    rw [← ih, run]
    exact (if_neg full).trans (by rw [settle_loud]; rfl)
  | case4 reading rest ih =>
    rw [← ih, run]
    rfl
  | case5 reading margin rest alone ih =>
    rw [← ih, run, if_neg alone, settle_loud]
  | case6 reading margin text rest ih =>
    rw [← ih, run, settle_loud]
    rfl
  | case7 reading margin flag attached rest ih =>
    rw [run]
    exact bind_loud (by rw [settle_loud, raiseLetter_loud]) fun reached => ih reached
  | case8 reading margin flag rest ih =>
    rw [run]
    exact bind_loud (by rw [settle_loud, raise_loud]) fun reached => ih reached
  | case9 => rfl
  | case10 reading margin setting text rest ih =>
    rw [run]
    exact bind_loud (by rw [settle_loud, give_loud]) fun reached => ih reached
  | case11 reading margin setting text rest ih =>
    rw [run]
    exact bind_loud (by rw [settle_loud, give_loud]) fun reached => ih reached
  | case12 reading margin setting rest valueless =>
    rw [run]
    · rfl
    · exact valueless

theorem Reading.arguments_loud : reading.loud.arguments = reading.arguments.map Arguments.loud := by
  obtain ⟨options, operands, extras⟩ := reading
  simp only [loud, arguments]
  split
  · by_cases clean : extras.isEmpty = true
    · simp only [clean, if_true]
      rfl
    · simp only [clean]
      rfl
  · rfl

end Readings

/-- The flag in front is read first and makes the rest of the command line be read as without it,
but for what is shown. -/
theorem parse_loud (words : List String) :
    parse ("-v" :: words) = (parse words).map Arguments.loud := by
  have isLetter : Word.classify "-v" = .ok (.letter .verbose none) := rfl
  unfold parse
  rw [classify_cons (by decide) isLetter]
  cases classify words with
  | error error => rfl
  | ok kinds =>
    change (Reading.run (Reading.loud {}) .nothing kinds >>= _) = Except.map _ (_ >>= _)
    rw [Reading.run_loud]
    cases Reading.run {} .nothing kinds with
    | error stop => rfl
    | ok last => exact last.arguments_loud

/-- The command line asks for all notices by itself. -/
def isVerbose (words : List String) : Bool :=
  match parse words with
  | .ok arguments => arguments.options.verbose
  | .error _ => false

section Reports
variable {lib : Library}

/-- The warnings and errors among some notices. -/
def grave (notices : List Notice) : List Notice :=
  notices.filter fun notice => notice.level = .warning ∨ notice.level = .error

/-- A quiet report is a loud one with warnings and errors as its only notices, unless all notices
are asked for or the reading of the command line ends the run. -/
structure Report.Echoes (quiet : Report lib) (asked : Bool) (loud : Report lib) : Prop where
  ending : quiet.ending = loud.ending
  calls : quiet.calls = loud.calls
  reached : quiet.world = loud.world
  stdout : quiet.stdout = loud.stdout
  complaint : quiet.complaint = loud.complaint
  exited : ∀ code, loud.ending = .exited code → ∀ time later, quiet.stderr time = loud.stderr later
  notices : quiet.notices = if asked then loud.notices else grave loud.notices

theorem atLeast_warning (notices : List Notice) : atLeast .warning notices = grave notices := by
  have warns (level : Level) :
      Level.warning.rank ≤ level.rank ↔ level = .warning ∨ level = .error := by
    cases level <;> decide
  simp only [atLeast, grave, warns]

theorem atLeast_debug (notices : List Notice) : atLeast .debug notices = notices := by
  simp [atLeast, Level.rank]

/-- A run that is over before any file is touched prints its errors with and without the flag. -/
theorem early_echoes {world : World lib} {ending : Ending} {stdout complaint : String}
    {notices : List Notice} {asked : Bool} (allGrave : grave notices = notices)
    (timeless : ∀ code, ending = .exited code → notices = []) :
    (early world ending stdout complaint notices).Echoes asked
      (early world ending stdout complaint notices) where
  ending := rfl
  calls := rfl
  reached := rfl
  stdout := rfl
  complaint := rfl
  exited code ended time later := by
    simp only [Report.stderr, early, timeless code ended, List.map_nil]
  notices := by
    simp only [early, allGrave, ite_self]

/-- The flag decides nothing about a conversion but which of its notices are printed. -/
theorem finish_echoes (settings : Settings) (arguments : Arguments) (world : World lib) :
    (finish settings arguments world).Echoes arguments.options.verbose
      (finish settings arguments.loud world) where
  ending := rfl
  calls := rfl
  reached := rfl
  stdout := rfl
  complaint := rfl
  exited code ended := by
    simp only [finish] at ended
    split at ended
    · cases ended
    · cases ended
  notices := by
    change atLeast (threshold arguments.options.verbose)
      (conversion settings arguments world).notices =
      if _ then atLeast .debug (conversion settings arguments world).notices
        else grave (atLeast .debug (conversion settings arguments world).notices)
    rw [atLeast_debug]
    cases arguments.options.verbose with
    | false => exact atLeast_warning _
    | true => exact atLeast_debug _

/-- A run with the flag in front of its command line is the run without it but for the notices that
are printed: without the flag just warnings and errors, unless all are asked for anyway. -/
theorem run_echoes_loud (environment : Environment) (words : List String) (world : World lib) :
    (run environment words world).Echoes (isVerbose words)
      (run environment ("-v" :: words) world) := by
  unfold run isVerbose
  rw [parse_loud]
  cases environment.settings with
  | error error => exact early_echoes rfl nofun
  | ok settings =>
    cases parse words with
    | error stop =>
      cases stop with
      | help => exact early_echoes rfl fun _ _ => rfl
      | usage error => exact early_echoes rfl fun _ _ => rfl
    | ok arguments =>
      have same : arguments.loud.options.layer settings = arguments.options.layer settings := rfl
      simp only [Except.map, same]
      cases arguments.options.layer settings with
      | error reason =>
        cases reason with
        | settings error => exact early_echoes rfl nofun
        | fault cause => exact early_echoes rfl nofun
      | ok layered => exact finish_echoes layered arguments world

end Reports

/-- Where the command line asks for all notices anyway, more than warnings and errors are printed
without the flag in front, too. -/
theorem not_run_echoes_grave : ¬ ∀ (environment : Environment) (words : List String)
    (world : World Scripted.library),
    (run environment words world).Echoes false (run environment ("-v" :: words) world) := by
  intro always
  have printed := (always [] ["-v", "in.tif", "out"] (Scripted.holding { mode := "RGB" })).notices
  revert printed
  decide +kernel

end InkToScreen.CommandLine
