import InkToScreen.Imaging.Library
import InkToScreen.Imaging.Metadata

/-! An imaging library without pixels. A picture is its header, a profile is the list of its
rendering tables, and a transform is built when the source has a table for the intent or the first
one. -/
namespace InkToScreen.Headers

/-- A profile: unreadable text, the built-in one of the screen, or one with rendering tables. -/
inductive Profile where
  | garbage (text : String)
  | builtin
  | tables (tables : List Int) (space : String) (defaultIntent : Int)
deriving DecidableEq, Repr

/-- A profile can be opened: it is readable and has no table twice. -/
def Profile.opens : Profile → Bool
  | garbage _ => false
  | builtin => true
  | tables held _ _ => held.Nodup

/-- The table of an intent; the absolute intent shares one with the relative intent. -/
def table : Intent → Int
  | .perceptual => 0
  | .relative => 1
  | .saturation => 2
  | .absolute => 1

def Profile.supports : Profile → Intent → Bool
  | garbage _, _ => false
  | builtin, _ => true
  | tables held _ _, intent => held.contains (table intent)

/-- A profile describes pictures of a mode by a table for the intent or by the first table. -/
def Profile.isSource (mode : String) : Profile → Intent → Bool
  | tables held space _, intent =>
    space = mode && (held.contains (table intent) || held.contains 0)
  | _, _ => false

def Profile.ownIntent : Profile → Int
  | tables _ _ own => own
  | _ => 0

inductive Blob where
  | profile (profile : Profile)
  | metadata (block : Metadata.Block)
deriving DecidableEq, Repr

def Blob.isEmpty : Blob → Bool
  | profile held => held = .garbage ""
  | metadata block => block = []

/-- A picture: its header, and whether its file ends too early. -/
structure Image where
  mode : String
  width : Nat := 4
  height : Nat := 4
  icc : Option Profile := none
  exif : Option Metadata.Block := none
  isTruncated : Bool := false
deriving DecidableEq, Repr

/-- What a file holds; of a JPEG file the colour resolution is known. -/
inductive Content where
  | other
  | profile (profile : Profile)
  | picture (image : Image)
  | jpeg (image : Image) (subsampling : Int)
deriving DecidableEq, Repr

def Image.profile? (image : Image) : Option Profile :=
  image.icc.filter fun held => !(Blob.profile held).isEmpty

def Content.image? : Content → Option Image
  | picture image => some image
  | jpeg image _ => some image
  | _ => none

def Content.profile? : Content → Option Profile
  | profile held => some held
  | _ => none

/-- The colour resolution of a JPEG file: full, a quarter, or none in a picture without colours. -/
def subsampling (mode : String) (options : Option Nat) : Int :=
  if mode = "L" then -1 else (options.getD 2 : Nat)

def maxJpegSide : Nat := 65500

abbrev Memory := Unit

def answered {α : Type} (value : α) : Answer Memory α := fun memory => (.ok value, memory)

def failed {α : Type} (cause : Fault) : Answer Memory α := fun memory => (.error cause, memory)

def refused {α : Type} (kind : Kind) (text : String) : Answer Memory α :=
  failed (.reported kind text)

def unidentified : Fault := .reported .unidentified "cannot identify image file"

/-- Why a picture cannot be opened, if it cannot: its metadata spoil it, or it has more than twice
the agreed count of pixels. -/
def openingFault? (maxPixels : Int) (image : Image) : Option Fault :=
  let pixels := image.width * image.height
  if image.exif.any Metadata.spoilsPicture then some unidentified
  else if 2 * maxPixels < pixels then
    some (.reported .bomb ("Image size (" ++ toString pixels ++ " pixels) exceeds limit of " ++
      toString (2 * maxPixels) ++ " pixels, could be decompression bomb DOS attack."))
  else none

/-- A picture can be opened, and so can the profile that it carries. -/
def Image.opens (maxPixels : Int) (image : Image) : Bool :=
  (openingFault? maxPixels image).isNone && image.profile?.all Profile.opens

def openFile (maxPixels : Int) (path : Path) (content : Option Content) : Answer Memory Image :=
  match content.map Content.image? with
  | none => failed (.system ⟨.denied, [path.text]⟩)
  | some none => failed unidentified
  | some (some image) => match openingFault? maxPixels image with
    | some cause => failed cause
    | none => answered image

def openProfile (path : Path) (content : Option Content) : Answer Memory Profile :=
  if hasNul path.text then refused .profile "embedded null character"
  else match (content.bind Content.profile?).filter Profile.opens with
    | some held => answered held
    | none => refused .profile "cannot open profile file"

def Blob.profile? : Blob → Option Profile
  | profile held => some held
  | metadata _ => none

/-- The metadata that a file keeps of some bytes. -/
def Blob.kept? : Blob → Option Metadata.Block
  | profile _ => none
  | metadata block => if Metadata.isMarked block then some block else none

def Blob.isTooLong : Blob → Bool
  | profile _ => false
  | metadata block => Metadata.maxBytes < block.length

/-- The transformed picture; a transform takes pictures in process inks only. -/
def applyTransform (image : Image) : Answer Memory (Option Image) :=
  if image.mode = "CMYK" then
    answered (some { mode := "RGB", width := image.width, height := image.height })
  else refused .profile "mode mismatch"

def encodingFault? (image : Image) (options : JpegOptions Blob) : Option Fault :=
  if image.mode ∉ ["RGB", "L", "CMYK"] then
    some (.reported .system ("cannot write mode " ++ image.mode ++ " as JPEG"))
  else if options.exif.any Blob.isTooLong then some (.reported .value "EXIF data is too long")
  else if image.width = 0 ∨ image.height = 0 then
    some (.reported .value "cannot write empty image")
  else if maxJpegSide < max image.width image.height then
    some (.reported .system "broken data stream when writing image file")
  else none

def encode (image : Image) (options : JpegOptions Blob) : Encoding Content :=
  match encodingFault? image options with
  | some cause => { content := .other, lost := false, fault := some cause }
  | none =>
    { content := .jpeg
        { mode := image.mode
          width := image.width
          height := image.height
          icc := options.icc.bind Blob.profile?
          exif := options.exif.bind Blob.kept? }
        (subsampling image.mode options.subsampling)
      lost := false
      fault := none }

/-- The count of pixels that is agreed on unless another one is given. -/
def defaultMaxPixels : Int := 89478485

/-- The library without pixels. -/
abbrev library (maxPixels : Int) : Library where
  Content := Content
  Memory := Memory
  Image := Image
  Profile := Profile
  Transform := Intent
  Blob := Blob
  size := fun _ => 0
  isEmpty := Blob.isEmpty
  header := fun image =>
    { mode := image.mode, width := image.width, height := image.height,
      icc := image.icc.map .profile, exif := image.exif.map .metadata }
  isFleeting := fun _ => false
  openImage := openFile maxPixels
  load := fun image =>
    if image.isTruncated then refused .system "image file is truncated (N bytes not processed)"
    else answered ()
  builtinProfile := answered .builtin
  parseProfile := fun bytes =>
    match bytes.profile?.filter Profile.opens with
    | some profile => answered profile
    | none => refused .system "cannot open profile from string"
  openProfile := openProfile
  supportsIntent := fun profile intent => answered (if profile.supports intent then 1 else -1)
  defaultIntent := fun profile => answered profile.ownIntent
  buildTransform := fun source target direction intent =>
    if source.isSource direction.source intent && target == .builtin then answered intent
    else refused .profile "cannot build transform"
  applyTransform := fun image _ => applyTransform image
  profileBytes := fun profile => answered (.profile profile)
  encode := fun image options memory => (encode image options, memory)

end InkToScreen.Headers
