import InkToScreen.Imaging.Run

namespace InkToScreen

/-- An open picture with what its header says. -/
structure Input (lib : Library) where
  path : Path
  image : lib.Image
  width : Int
  height : Int
  mode : String
  interpretation : Interpretation
  profile : Option lib.Blob
  exif : Option lib.Blob
  size : Option Nat

namespace Input
variable {lib : Library} {α : Type}

def isCmyk (input : Input lib) : Bool :=
  input.interpretation == .cmyk

def notice (input : Input lib) : Notice :=
  .opened input.path input.mode input.width input.height input.interpretation input.profile.isSome

/-- What is known of a picture that has just been opened, the tree being what it is by then. -/
def ofImage (path : Path) (image : lib.Image) (files : Files lib.Content) : Input lib :=
  let header := lib.header image
  { path
    image
    width := header.width
    height := header.height
    mode := header.mode
    interpretation := .ofMode header.mode
    profile := header.icc.filter fun bytes => !lib.isEmpty bytes
    exif := header.exif
    size := (files.content? path).map lib.size }

/-- A fault of opening, in the words of this program. -/
def openingFault (path : Path) (cause : Fault) : Fault :=
  match cause.kind with
  | .unidentified => .unrecognized path
  | .bomb => .oversized path cause.message
  | _ => cause

def content? (path : Path) : Run lib (Option lib.Content) := do
  let world ← Run.look
  match world.files.namesFile path with
  | .error error => Run.fail (.fault (.system error))
  | .ok false => Run.fail (.fault (.absent path))
  | .ok true => return world.files.readable? path

/-- The picture of the input file, which may be gone afterwards. -/
def openImage (path : Path) : Run lib lib.Image := do
  let content ← content? path
  match ← Run.reify (Run.ask (.openImage path) (lib.openImage path content)) with
  | .error (.fault cause) => Run.fail (.fault (openingFault path cause))
  | .error failure => Run.fail failure
  | .ok image =>
    if lib.isFleeting image then
      let world ← Run.look
      match world.files.locate path with
      | .ok place => Run.setFiles (world.files.remove place)
      | .error _ => pure ()
    return image

/-- Work on an open picture. -/
def use (path : Path) (work : Input lib → Run lib α) : Run lib α := do
  let image ← openImage path
  Run.ensuring (do
    let world ← Run.look
    let input := ofImage path image world.files
    Run.note input.notice
    work input) (Run.close .input image)

end Input
end InkToScreen
