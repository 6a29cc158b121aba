import InkToScreen.Files.Listing
import InkToScreen.Imaging.Run

/-! An imaging library that plays a script: pictures and profiles carry the answers to all calls
made with them. The bytes of a profile are its name, and a name is known once a profile of that name
has been stored or a picture with it has been opened. -/
namespace InkToScreen.Scripted

structure Profile where
  name : String
  supported : List Int := [0, 1, 2, 3]
  unsupportedAnswer : Int := -1
  defaultIntent : Int := 0
  openFault : Option Fault := none
  supportedFault : Option Fault := none
  defaultFault : Option Fault := none
  buildFault : Option Fault := none
  targetFault : Option Fault := none
  applyFault : Option Fault := none
  givesNoPicture : Bool := false
  hasNoBytes : Bool := false
deriving DecidableEq, Repr

/-- A picture with the answers to the calls made with it. -/
structure Image where
  mode : String
  width : Int := 4
  height : Int := 4
  icc : Option String := none
  exif : Option String := none
  carried : Option Profile := none
  openFault : Option Fault := none
  loadFault : Option Fault := none
  saveFault : Option Fault := none
  isFleeting : Bool := false
  losesScratch : Bool := false
deriving DecidableEq, Repr

structure Encoded where
  mode : String
  width : Int
  height : Int
  options : JpegOptions String
deriving DecidableEq, Repr

inductive Content where
  | text (words : String)
  | picture (image : Image) (bytes : Nat)
  | profile (held : Profile) (bytes : Nat)
  | encoded (held : Encoded)
  | unfinished
deriving DecidableEq, Repr

def Content.size : Content → Nat
  | .text words => words.utf8ByteSize
  | .picture _ bytes => bytes
  | .profile _ bytes => bytes
  | .encoded _ => 64
  | .unfinished => "partial".utf8ByteSize

/-- Known profiles, the latest first. -/
abbrev Memory := List Profile

/-- The built-in profile of the screen, which is no source profile. -/
def builtin : Profile where
  name := "sRGB"
  buildFault := some (.reported .profile "cannot build transform")

def initial : Memory := [builtin]

def known? (memory : Memory) (name : String) : Option Profile :=
  memory.find? fun profile => profile.name = name

def learn : Content → Memory → Memory
  | .profile held _, memory => held :: memory
  | _, memory => memory

/-- An answer that changes nothing: a scripted fault, if there is one, or a value. -/
def scripted {α : Type} (fault : Option Fault) (value : α) : Answer Memory α := fun memory =>
  match fault with
  | some cause => (.error cause, memory)
  | none => (.ok value, memory)

/-- Opening a picture makes its own profile known. -/
def openImage (image : Image) : Answer Memory Image := fun memory =>
  match image.openFault with
  | some cause => (.error cause, memory)
  | none => (.ok image, image.carried.toList ++ memory)

/-- The picture that an encoding opens as. -/
def Encoded.image (encoded : Encoded) : Image where
  mode := encoded.mode
  width := encoded.width
  height := encoded.height
  icc := encoded.options.icc
  exif := encoded.options.exif

def openContent : Option Content → Answer Memory Image
  | some (.picture image _) => openImage image
  | some (.encoded held) => openImage held.image
  | _ => scripted (some (.reported .unidentified "cannot identify image file")) { mode := "" }

def Image.transformed (image : Image) : Image where
  mode := "RGB"
  width := image.width
  height := image.height
  saveFault := image.saveFault
  losesScratch := image.losesScratch

def encode (image : Image) (options : JpegOptions String) : Encoding Content where
  content := match image.saveFault with
    | some _ => .unfinished
    | none => .encoded { mode := image.mode, width := image.width, height := image.height, options }
  lost := image.losesScratch
  fault := image.saveFault

abbrev library : Library where
  Content := Content
  Memory := Memory
  Image := Image
  Profile := Profile
  Transform := Profile
  Blob := String
  size := Content.size
  isEmpty := fun bytes => bytes.isEmpty
  header := fun image =>
    { mode := image.mode, width := image.width, height := image.height, icc := image.icc,
      exif := image.exif }
  isFleeting := Image.isFleeting
  openImage := fun _ content => openContent content
  load := fun image => scripted image.loadFault ()
  builtinProfile := scripted none builtin
  parseProfile := fun name memory =>
    match known? memory name with
    | none => (.error (.reported .system "cannot open profile from string"), memory)
    | some profile => scripted profile.openFault profile memory
  openProfile := fun _ content =>
    match content with
    | some (.profile held _) => scripted held.openFault held
    | _ => fun memory => (.error (.reported .profile "cannot open profile file"), memory)
  supportsIntent := fun profile intent =>
    scripted profile.supportedFault
      (if profile.supported.contains intent.number then 1 else profile.unsupportedAnswer)
  defaultIntent := fun profile => scripted profile.defaultFault profile.defaultIntent
  buildTransform := fun source target _ _ =>
    scripted (source.buildFault <|> target.targetFault) source
  applyTransform := fun image source =>
    scripted source.applyFault (if source.givesNoPicture then none else some image.transformed)
  profileBytes := fun profile => scripted none (if profile.hasNoBytes then "" else profile.name)
  encode := fun image options memory => (encode image options, memory)

/-- A world with some files in the working directory, which is the top. -/
def world (entries : List (String × Content)) : World library where
  files := entries.foldl (fun files entry =>
    files.put [entry.1] (.file entry.2 (.newFile .usualMask))) (.empty [])
  umask := .usualMask
  memory := entries.foldl (fun memory entry => learn entry.2 memory) initial

def handleName : Handle → String
  | .input => "input"
  | .result => "result"

def line : Call library → String
  | .openImage path => "open " ++ path.text
  | .load _ => "load"
  | .builtinProfile => "create_profile " ++ builtin.name
  | .parseProfile name => "parse " ++ name
  | .openProfile path => "open_profile " ++ path.text
  | .supportsIntent profile intent =>
    "supported " ++ profile.name ++ " " ++ toString intent.number ++ " 0"
  | .defaultIntent profile => "default_intent " ++ profile.name
  | .buildTransform source target direction intent =>
    "build " ++ source.name ++ " " ++ target.name ++ " " ++ direction.source ++ " " ++
      direction.target ++ " " ++ toString intent.number
  | .applyTransform _ source => "apply " ++ source.name
  | .profileBytes profile => "tobytes " ++ profile.name
  | .encode _ _ _ => "save JPEG"
  | .close handle _ => "close " ++ handleName handle

end InkToScreen.Scripted
