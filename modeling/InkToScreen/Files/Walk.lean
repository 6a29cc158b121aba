import InkToScreen.Files.Basic

namespace InkToScreen

/-- Why a path leads nowhere. -/
inductive Obstacle where
  | nul
  | system (code : SystemCode)
deriving DecidableEq, Repr

def maxNameBytes : Nat := 255

def pathBytesBound : Nat := 4096

/-- A path text that the system takes at all. -/
def acceptText (text : String) : Except Obstacle Unit :=
  if hasNul text then .error .nul
  else if pathBytesBound ≤ text.utf8ByteSize then .error (.system .nameTooLong)
  else .ok ()

namespace Files
variable {α : Type}

def step (files : Files α) (here : Place) (part : String) : Except SystemCode Place :=
  match files.node? here with
  | none => .error .missing
  | some (.file _ _) => .error .notDirectory
  | some (.folder permissions) =>
    if !permissions.maySearch then .error .denied
    else if part = ".." then .ok here.dropLast
    else if maxNameBytes < part.utf8ByteSize then .error .nameTooLong
    else if files.isFree (here ++ [part]) then .error .missing
    else .ok (here ++ [part])

def walk (files : Files α) (here : Place) (parts : List String) : Except SystemCode Place :=
  parts.foldlM files.step here

def start (files : Files α) (path : Path) : Place :=
  if path.root = .relative then files.home else []

def locate (files : Files α) (path : Path) : Except Obstacle Place := do
  acceptText path.text
  match files.walk (files.start path) path.parts with
  | .ok place => .ok place
  | .error code => .error (.system code)

/-- The file that a path names, if it names one: its content and its permission bits. -/
def file? (files : Files α) (path : Path) : Option (α × Permissions) :=
  match files.locate path with
  | .ok place => match files.node? place with
    | some (.file content permissions) => some (content, permissions)
    | _ => none
  | .error _ => none

def content? (files : Files α) (path : Path) : Option α :=
  (files.file? path).map Prod.fst

/-- The content of the file that a path names, if it may be read. -/
def readable? (files : Files α) (path : Path) : Option α :=
  ((files.file? path).filter fun file => file.2.mayRead).map Prod.fst

/-- Whether a path names a file. What is missing is a no, and so is a file on the way; a path that
cannot be followed for another reason is an error. -/
def namesFile (files : Files α) (path : Path) : Except SystemError Bool :=
  match files.locate path with
  | .error (.system .missing) | .error (.system .notDirectory) => .ok false
  | .error (.system code) => .error ⟨code, [path.text]⟩
  | _ => .ok (files.file? path).isSome

theorem content?_of_readable? {files : Files α} {path : Path} {content : α}
    (read : files.readable? path = some content) : files.content? path = some content := by
  rw [readable?, Option.map_eq_some_iff] at read
  obtain ⟨file, allowed, same⟩ := read
  rw [Option.filter_eq_some_iff] at allowed
  rw [content?, allowed.1, Option.map_some, same]

theorem namesFile_of_readable? {files : Files α} {path : Path} {content : α}
    (read : files.readable? path = some content) : files.namesFile path = .ok true := by
  have held : (files.file? path).isSome := by
    have found := content?_of_readable? read
    rw [content?, Option.map_eq_some_iff] at found
    obtain ⟨file, present, _⟩ := found
    simp [present]
  rw [namesFile]
  split
  · rename_i blocked
    simp [file?, blocked] at held
  · rename_i blocked
    simp [file?, blocked] at held
  · rename_i blocked
    simp [file?, blocked] at held
  · rw [held]

end Files
end InkToScreen
