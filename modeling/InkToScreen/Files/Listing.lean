import InkToScreen.Files.Scratch

namespace InkToScreen

namespace Files
variable {α : Type}

/-- A tree with nothing but the working directory and the folders above it; a name that no path may
hold is left out. -/
def empty (home : Place) : Files α :=
  let names := home.filter fun name => !hasNul name
  { home := names
    entries := (List.range names.length).map fun depth => (names.take (depth + 1), top)
    home_noNul := by simp [names] }

/-- A change that stopped: the tree by then, and why. -/
structure Stop (α : Type) where
  files : Files α
  cause : Fault
deriving DecidableEq, Repr

def stopAt (files : Files α) (path : Path) : Obstacle → Except (Stop α) (Files α)
  | .nul => .error ⟨files, .nulInPath⟩
  | .system code => .error ⟨files, .system ⟨code, [path.text]⟩⟩

def add (files : Files α) (path : Path) (node : Node α) : Except (Stop α) (Files α) :=
  match files.locate path.parent, path.name? with
  | .error obstacle, _ => files.stopAt path obstacle
  | .ok _, none => files.stopAt path (.system .isDirectory)
  | .ok folder, some name => match files.refusal? folder with
    | some code => files.stopAt path (.system code)
    | none => .ok (files.put (folder ++ [name]) node)

def addFolder (umask : Permissions) (files : Files α) (path : Path) : Except (Stop α) (Files α) :=
  match files.locate path with
  | .ok _ => .ok files
  | .error (.system .missing) => files.add path (.folder (.newFolder umask))
  | .error obstacle => files.stopAt path obstacle

def addFolders (umask : Permissions) (files : Files α) (path : Path) :
    Except (Stop α) (Files α) := do
  let above := (List.range path.parts.length).map fun depth =>
    { path with parts := path.parts.take (depth + 1) }
  let filled ← above.foldlM (addFolder umask) files
  match filled.file? path with
  | none => return filled
  | some _ => filled.stopAt path (.system .occupied)

/-- The tree with some content in the file that a path names; a file that was there keeps its
permission bits. -/
def write (umask : Permissions) (files : Files α) (path : Path) (content : α) :
    Except (Stop α) (Files α) :=
  match files.locate path with
  | .error (.system .missing) => files.add path (.file content (.newFile umask))
  | .error obstacle => files.stopAt path obstacle
  | .ok place => match files.node? place with
    | some (.file _ permissions) =>
      if permissions.mayWrite then .ok (files.put place (.file content permissions))
      else files.stopAt path (.system .denied)
    | _ => files.stopAt path (.system .isDirectory)

/-- A location holds a folder that may not be listed, or has one below it. -/
def hasHidden (files : Files α) (place : Place) : Bool :=
  files.entries.any fun entry => place.isPrefixOf entry.1 && match entry.2 with
    | .folder permissions => !permissions.mayRead
    | .file _ _ => false

def clear (files : Files α) (path : Path) : Except (Stop α) (Files α) :=
  match files.locate path with
  | .error obstacle => files.stopAt path obstacle
  | .ok place => match files.refusal? place.dropLast with
    | some code => files.stopAt path (.system code)
    | none =>
      if files.hasHidden place then files.stopAt path (.system .denied)
      else .ok { files with entries := files.entries.filter fun entry => !place.isPrefixOf entry.1 }

/-- A location below the working directory that listing one folder after the other comes to. -/
def isListed (files : Files α) (place : Place) : Bool :=
  files.home.isPrefixOf place && files.home ≠ place &&
    (List.range (place.length - files.home.length)).all fun depth =>
      match files.node? (place.take (files.home.length + depth)) with
      | some (.folder permissions) => permissions.mayRead
      | _ => false

/-- Everything listed below the working directory, in the order of the path texts. -/
def listing (files : Files α) : List (String × Node α) :=
  let below := files.entries.filterMap fun entry =>
    if files.isListed entry.1 then
      some (joinSlashes (entry.1.drop files.home.length), entry.2)
    else none
  below.mergeSort fun first second => !(second.1 < first.1)

def readableListing (files : Files α) : Except SystemError (List (String × Node α)) :=
  match files.listing.find? fun entry => match entry.2 with
    | .file _ permissions => !permissions.mayRead
    | .folder _ => false with
  | some entry => .error ⟨.denied, [entry.1]⟩
  | none => .ok files.listing

end Files
end InkToScreen
