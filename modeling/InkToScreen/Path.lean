/-! Path texts in normal form: repeated slashes and single dots vanish, two dots stay, and exactly
two leading slashes stay two. Locations are what is left once no dots remain. -/
namespace InkToScreen

inductive Root where
  | relative
  | single
  | double
deriving DecidableEq, Repr

def Root.text : Root → String
  | relative => ""
  | single => "/"
  | double => "//"

/-- A path: where it starts and the names on the way. -/
structure Path where
  root : Root
  parts : List String
deriving DecidableEq, Repr

/-- A text with the one character that no path may hold. -/
def hasNul (text : String) : Bool :=
  text.toList.contains '\x00'

def splitSlashes : List Char → List (List Char)
  | [] => [[]]
  | c :: rest =>
    if c = '/' then [] :: splitSlashes rest
    else match splitSlashes rest with
      | [] => [[c]]
      | first :: more => (c :: first) :: more

def joinSlashes : List String → String
  | [] => ""
  | [part] => part
  | part :: rest => part ++ "/" ++ joinSlashes rest

namespace Path

/-- A name that counts as a step: neither empty nor a single dot. -/
def isStep (part : List Char) : Bool :=
  part != [] && part != ['.']

/-- Where a path text starts: one slash or three and more are the same, two are not. -/
def rootOf (text : List Char) : Root :=
  match (text.takeWhile (· = '/')).length with
  | 0 => .relative
  | 2 => .double
  | _ => .single

def ofText (text : String) : Path where
  root := rootOf text.toList
  parts := ((splitSlashes text.toList).filter isStep).map String.ofList

def text (path : Path) : String :=
  match path.root, path.parts with
  | .relative, [] => "."
  | root, parts => root.text ++ joinSlashes parts

/-- The path without its last name; a path without names is its own parent. -/
def parent (path : Path) : Path :=
  { path with parts := path.parts.dropLast }

def name? (path : Path) : Option String :=
  path.parts.getLast?

end Path

/-- A location: the names on the way from the top directory, without any dots. -/
abbrev Place := List String

namespace Path

/-- One step of a path taken as text: two dots undo the step before. -/
def collapse (place : Place) (part : String) : Place :=
  if part = ".." then place.dropLast else place ++ [part]

/-- The location that a path names by its text alone, seen from a working directory. -/
def place (path : Path) (home : Place) : Place :=
  path.parts.foldl collapse (if path.root = .relative then home else [])

/-- The text of a location; two leading slashes stay two. -/
def placeText (root : Root) (place : Place) : String :=
  (if root = .double then "//" else "/") ++ joinSlashes place

end Path
end InkToScreen
