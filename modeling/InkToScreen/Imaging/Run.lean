import InkToScreen.Files.Scratch
import InkToScreen.Imaging.Library
import InkToScreen.Notice

namespace InkToScreen

structure World (lib : Library) where
  files : Files lib.Content
  umask : Permissions
  memory : lib.Memory

/-- How a run ended and what it did. -/
structure Outcome (lib : Library) (α : Type) where
  result : Except Failure α
  world : World lib
  notices : List Notice
  calls : List (Call lib)

/-- A program over files and a library. -/
def Run (lib : Library) (α : Type) := World lib → Outcome lib α

namespace Run
variable {lib : Library} {α β : Type}

protected def pure (value : α) : Run lib α := fun world =>
  { result := .ok value, world, notices := [], calls := [] }

def fail (failure : Failure) : Run lib α := fun world =>
  { result := .error failure, world, notices := [], calls := [] }

def ofExcept (result : Except Failure α) : Run lib α := fun world =>
  { result, world, notices := [], calls := [] }

protected def bind (first : Run lib α) (next : α → Run lib β) : Run lib β := fun world =>
  match first world with
  | { result := .error failure, world, notices, calls } =>
    { result := .error failure, world, notices, calls }
  | { result := .ok value, world, notices, calls } =>
    let last := next value world
    { last with notices := notices ++ last.notices, calls := calls ++ last.calls }

instance : Monad (Run lib) where
  pure := Run.pure
  bind := Run.bind

def note (notice : Notice) : Run lib Unit := fun world =>
  { result := .ok (), world, notices := [notice], calls := [] }

/-- Calls the library; the call counts as made whatever the answer. -/
def ask (call : Call lib) (answer : Answer lib.Memory α) : Run lib α := fun world =>
  let (result, memory) := answer world.memory
  { result := result.mapError .fault
    world := { world with memory }
    notices := []
    calls := [call] }

def look : Run lib (World lib) := fun world =>
  { result := .ok world, world, notices := [], calls := [] }

def setFiles (files : Files lib.Content) : Run lib Unit := fun world =>
  { result := .ok (), world := { world with files }, notices := [], calls := [] }

/-- Sets another mask and returns the one before. -/
def setUmask (umask : Permissions) : Run lib Permissions := fun world =>
  { result := .ok world.umask, world := { world with umask }, notices := [], calls := [] }

/-- The way a run ends, as a value. -/
def reify (run : Run lib α) : Run lib (Except Failure α) := fun world =>
  let outcome := run world
  { outcome with result := .ok outcome.result }

/-- A run with a last step that is taken however it ends. -/
def ensuring (run : Run lib α) (last : Run lib Unit) : Run lib α := do
  let result ← reify run
  last
  ofExcept result

/-- A run whose faults of some kinds are conversion errors. -/
def convertingFaults (caught : Kind → Bool) (error : Fault → ConversionError) (run : Run lib α) :
    Run lib α := do
  match ← reify run with
  | .ok value => pure value
  | .error (.fault cause) =>
    if caught cause.kind then fail (.conversion (error cause)) else fail (.fault cause)
  | .error failure => fail failure

/-- Closing a picture never fails, as a library keeps the faults of closing to itself. -/
def close (handle : Handle) (image : lib.Image) : Run lib Unit :=
  ask (.close handle image) fun memory => (.ok (), memory)

end Run
end InkToScreen
