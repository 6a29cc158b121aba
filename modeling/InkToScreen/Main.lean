import Mathlib.Tactic.DeprecateTo
import InkToScreen.CommandLine.Session
import InkToScreen.Files.Listing
import InkToScreen.Imaging.Headers

/-! The program on its own. It is linked without any picture format, so whatever file it is given
holds no picture; what it prints and the code it exits with are those of the run. -/
namespace InkToScreen.Program

def environment : IO Environment :=
  Environment.names.filterMapM fun name =>
    return (← IO.getEnv name).map fun text => (name, text)

/-- The working directory with the file that a command line names as its input. -/
def files (words : List String) : IO (Files Headers.Content) := do
  let empty := Files.empty (Path.ofText (← IO.currentDir).toString).parts
  match (CommandLine.parse words).toOption.bind CommandLine.Arguments.input with
  | none => return empty
  | some input =>
    try
      let _ ← IO.FS.readBinFile input
      let path := Path.ofText input
      match empty.addFolders .usualMask path.parent with
      | .ok folders => return ((folders.write .usualMask path .other).toOption).getD empty
      | .error _ => return empty
    catch _ => return empty

/-- The local time, or UTC where the local zone is not known. -/
def now : IO Std.Time.PlainDateTime := do
  try Std.Time.PlainDateTime.now
  catch _ => return .ofWallTime (.ofTimestamp (← Std.Time.Timestamp.now) .zero)

/-- What is printed before each notice. The notices of a run are printed at its end, so they have
one time. -/
def time : IO String :=
  return (← now).format "uuuu-MM-dd HH:mm:ss,SSS"

/-- A code as the system keeps it, in one byte. -/
def byte (code : Int) : UInt32 :=
  UInt32.ofNat (code % 256).toNat

def run (words : List String) : IO UInt32 := do
  let world : World (Headers.library Headers.defaultMaxPixels) :=
    { files := ← files words, umask := .usualMask, memory := () }
  let report := CommandLine.run (← environment) words world
  (← IO.getStdout).putStr report.stdout
  (← IO.getStderr).putStr (report.stderr (← time))
  match report.ending.ofProcess with
  | .returned code | .exited code => return byte code
  | .escaped failure =>
    (← IO.getStderr).putStr (failure.message ++ "\n")
    return 1

end InkToScreen.Program

def main (words : List String) : IO UInt32 :=
  InkToScreen.Program.run words
