import InkToScreen.CommandLine.Arguments
import InkToScreen.CommandLine.Usage
import InkToScreen.Conversion.Convert
import InkToScreen.Settings.Changes
import InkToScreen.Settings.Environment

namespace InkToScreen.CommandLine

inductive Ending where
  | returned (code : Int)
  | exited (code : Int)
  | escaped (failure : Failure)
deriving DecidableEq, Repr

/-- As its own process a program always exits. -/
def Ending.ofProcess : Ending → Ending
  | .returned code => .exited code
  | ending => ending

/-- A run of the program: what it printed, noticed and did. -/
structure Report (lib : Library) where
  ending : Ending
  stdout : String
  complaint : String
  notices : List Notice
  world : World lib
  calls : List (Call lib)

def printed (time : String) (notice : Notice) : String :=
  time ++ " - " ++ notice.level.name ++ " - " ++ notice.message ++ "\n"

def Report.stderr {lib : Library} (report : Report lib) (time : String) : String :=
  report.complaint ++ String.join (report.notices.map (printed time))

def threshold (verbose : Bool) : Level :=
  if verbose then .debug else .warning

def atLeast (level : Level) (notices : List Notice) : List Notice :=
  notices.filter fun notice => level.rank ≤ notice.level.rank

/-- A profile path from the command line; a lone `--` is shown as an empty list and names a file so.
-/
def profileChange : Supplied Path → Option Path
  | .absent => none
  | .bare => some (Path.ofText "[]")
  | .value path => some path

def valueChange {α : Type} : Supplied α → Option α
  | .value value => some value
  | _ => none

def Options.changes (options : Options) : Changes where
  backstop := profileChange options.backstop
  srgb := profileChange options.srgb
  quality := valueChange options.quality
  extension := if options.extension = .bare then some "" else valueChange options.extension
  intent := valueChange options.intent

inductive LayerError where
  | settings (error : SettingsError)
  | fault (cause : Fault)
deriving DecidableEq, Repr

/-- The settings with the options over them. -/
def Options.layer (options : Options) (settings : Settings) : Except LayerError Settings :=
  if options.quality = .bare then .error (.fault .qualityWithoutNumber)
  else match settings.change options.changes with
    | .ok layered => .ok layered
    | .error (.notJpegExtension extension) =>
      if options.extension = .bare then .error (.settings .extensionWithoutText)
      else .error (.settings (.notJpegExtension extension))
    | .error error => .error (.settings error)

variable {lib : Library}

/-- A run that ends before any file is touched. -/
def early (world : World lib) (ending : Ending) (stdout complaint : String)
    (notices : List Notice) : Report lib :=
  { ending, stdout, complaint, notices, world, calls := [] }

def conversion (settings : Settings) (arguments : Arguments) : Run lib Status :=
  match arguments.input with
  | none => Run.fail (.fault .inputWithoutText)
  | some input => (Converter.ofSettings settings).convert input (arguments.stem.getD "")

def finish (settings : Settings) (arguments : Arguments) (world : World lib) : Report lib :=
  let outcome := conversion settings arguments world
  { ending := match outcome.result with
      | .ok status => .returned (settings.exitCode status)
      | .error failure => .escaped failure
    stdout := ""
    complaint := ""
    notices := atLeast (threshold arguments.options.verbose) outcome.notices
    world := outcome.world
    calls := outcome.calls }

/-- A run of the program with an environment and the words of its command line. -/
def run (environment : Environment) (words : List String) (world : World lib) : Report lib :=
  match environment.settings with
  | .error error =>
    early world (.returned Status.fatalError.defaultCode) "" "" [.invalidSettings error]
  | .ok settings =>
    let fatal := settings.exitCode .fatalError
    match parse words with
    | .error .help => early world (.exited 0) help "" []
    | .error (.usage error) => early world (.exited fatal) "" error.report []
    | .ok arguments => match arguments.options.layer settings with
      | .error (.settings error) => early world (.returned fatal) "" "" [.invalidSettings error]
      | .error (.fault cause) => early world (.escaped (.fault cause)) "" "" []
      | .ok layered => finish layered arguments world

end InkToScreen.CommandLine
