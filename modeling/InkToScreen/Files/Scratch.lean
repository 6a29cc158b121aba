import InkToScreen.Files.Walk

namespace InkToScreen

/-- A scratch file, by location and by the text that messages show. -/
structure Scratch where
  place : Place
  text : String
deriving DecidableEq, Repr

namespace Scratch

/-- The location of the folder that a scratch file is in. -/
def folder (scratch : Scratch) : Place :=
  scratch.place.dropLast

/-- How many names are tried. Outside, names are drawn at random, up to 238328 of them; here they
are numbered and tried in order, so a folder is full once the names with these numbers are taken. -/
def attempts : Nat := 10000

def permissions : Permissions := 0o600

def digits (number : Nat) : List Char :=
  let shown := Nat.toDigits 10 number
  List.replicate (8 - shown.length) '0' ++ shown

/-- The name with a number, in place of one with random letters. -/
def name (number : Nat) : String :=
  ".cmyk2srgb-" ++ String.ofList (digits number) ++ ".tmp"

def inFolder (root : Root) (folder : Place) (number : Nat) : Scratch where
  place := folder ++ [name number]
  text := Path.placeText root (folder ++ [name number])

end Scratch

namespace Files
variable {α : Type}

/-- The first scratch file, from a number on, whose name nothing has. -/
def freeScratch? (files : Files α) (root : Root) (folder : Place) :
    (attempts number : Nat) → Option Scratch
  | 0, _ => none
  | attempts + 1, number =>
    if files.isFree (Scratch.inFolder root folder number).place then
      some (Scratch.inFolder root folder number)
    else files.freeScratch? root folder attempts (number + 1)

/-- Why no name can be added to a location or taken away from it, if that is so. -/
def refusal? (files : Files α) (place : Place) : Option SystemCode :=
  match files.node? place with
  | none => some .missing
  | some (.file _ _) => some .notDirectory
  | some (.folder permissions) =>
    if permissions.maySearch && permissions.mayWrite then none else some .denied

def obstacle? (files : Files α) (folder : Place) (text : String) : Option Obstacle :=
  match acceptText text with
  | .error obstacle => some obstacle
  | .ok () => match files.walk [] folder with
    | .error code => some (.system code)
    | .ok place => (files.refusal? place).map .system

/-- A scratch file in the folder of a path, or why there is none; the folder is taken from the text
of the path, so that two dots undo the name before them. -/
def scratch (files : Files α) (folder : Path) : Except Fault Scratch :=
  let place := folder.place files.home
  let first := Scratch.inFolder folder.root place 0
  match files.obstacle? place first.text with
  | some .nul => .error .nulInPath
  | some (.system code) => .error (.system ⟨code, [first.text]⟩)
  | none => match files.freeScratch? folder.root place Scratch.attempts 0 with
    | some scratch => .ok scratch
    | none => .error (.system ⟨.noFreeName, []⟩)

/-- The location of a name that a renaming may give to a file in a folder. -/
def targetIn (files : Files α) (folder : Place) (name? : Option String) : Except SystemCode Place :=
  match files.node? folder, name? with
  | none, _ => .error .missing
  | some (.file _ _), _ => .error .notDirectory
  | some (.folder _), none => .error .busy
  | some (.folder permissions), some name =>
    if !permissions.maySearch then .error .denied
    else if name = ".." then .error .busy
    else if maxNameBytes < name.utf8ByteSize then .error .nameTooLong
    else if !permissions.mayWrite then .error .denied
    else if files.isFolder (folder ++ [name]) then .error .isDirectory
    else .ok (folder ++ [name])

def target (files : Files α) (path : Path) : Except Obstacle Place := do
  acceptText path.text
  let folder ← (files.walk (files.start path) path.parts.dropLast).mapError .system
  (files.targetIn folder path.name?).mapError .system

def rename (files : Files α) (scratch : Scratch) (path : Path) : Except Fault (Files α) :=
  match files.target path with
  | .error .nul => .error .nulInPath
  | .error (.system code) => .error (.system ⟨code, [scratch.text, path.text]⟩)
  | .ok place => match files.node? scratch.place with
    | none => .error (.system ⟨.missing, [scratch.text, path.text]⟩)
    | some node => .ok ((files.remove scratch.place).put place node)

def permit (files : Files α) (scratch : Scratch) (permissions : Permissions) :
    Except Fault (Files α) :=
  match files.node? scratch.place with
  | some (.file content _) => .ok (files.put scratch.place (.file content permissions))
  | _ => .error (.system ⟨.missing, [scratch.text]⟩)

private theorem freeScratch?_free {files : Files α} {root : Root} {folder : Place}
    {attempts number : Nat} {scratch : Scratch}
    (found : files.freeScratch? root folder attempts number = some scratch) :
    files.node? scratch.place = none := by
  induction attempts generalizing number with
  | zero => cases found
  | succ attempts ih =>
    rw [freeScratch?] at found
    split at found
    · rename_i free
      cases found
      simpa [isFree] using free
    · exact ih found

theorem node?_of_scratch {files : Files α} {folder : Path} {scratch : Scratch}
    (made : files.scratch folder = .ok scratch) : files.node? scratch.place = none := by
  rw [Files.scratch] at made
  split at made
  · cases made
  · cases made
  · split at made
    · rename_i found
      cases made
      exact freeScratch?_free found
    · cases made

end Files
end InkToScreen
