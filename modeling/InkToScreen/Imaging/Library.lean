import InkToScreen.Color.Intent
import InkToScreen.Failure

/-! The imaging library, seen from outside. Opening, decoding, profiles, transforms and encoding are
answers of a library value, so what holds of every value holds whatever it answers. -/
namespace InkToScreen

/-- What opening a picture shows before anything is decoded. -/
structure Header (Blob : Type) where
  mode : String
  width : Int
  height : Int
  icc : Option Blob
  exif : Option Blob
deriving DecidableEq, Repr

/-- The modes of the pictures that a transform takes and of those that it makes. -/
structure Direction where
  source : String
  target : String
deriving DecidableEq, Repr

/-- From process inks to screen colours. -/
def Direction.toScreen : Direction :=
  ⟨"CMYK", "RGB"⟩

structure JpegOptions (Blob : Type) where
  quality : Int
  subsampling : Option Nat
  icc : Option Blob
  exif : Option Blob
deriving DecidableEq, Repr

/-- What the encoder leaves behind: the content written, whether the file was taken away meanwhile,
and the fault it ended with. -/
structure Encoding (Content : Type) where
  content : Content
  lost : Bool
  fault : Option Fault

/-- An answer that may fail and may change what the library remembers. -/
abbrev Answer (Memory α : Type) := Memory → Except Fault α × Memory

/-- An imaging library: what files hold, what it hands out, and how it answers each call. Closing a
picture has no answer here: it is taken to succeed and to leave what the library remembers alone. -/
structure Library where
  Content : Type
  Memory : Type
  Image : Type
  Profile : Type
  Transform : Type
  Blob : Type
  size : Content → Nat
  isEmpty : Blob → Bool
  header : Image → Header Blob
  /-- The file of this picture is taken away as soon as it is open. -/
  isFleeting : Image → Bool
  /-- Opening a picture; a file that may not be read shows no content. -/
  openImage : Path → Option Content → Answer Memory Image
  load : Image → Answer Memory Unit
  builtinProfile : Answer Memory Profile
  parseProfile : Blob → Answer Memory Profile
  /-- Opening a profile; neither does a path that names no file. -/
  openProfile : Path → Option Content → Answer Memory Profile
  /-- Whether a profile has an intent as a source; one means yes. -/
  supportsIntent : Profile → Intent → Answer Memory Int
  defaultIntent : Profile → Answer Memory Int
  buildTransform : Profile → Profile → Direction → Intent → Answer Memory Transform
  /-- The transformed picture, if the transform makes one. -/
  applyTransform : Image → Transform → Answer Memory (Option Image)
  profileBytes : Profile → Answer Memory Blob
  encode : Image → JpegOptions Blob → Memory → Encoding Content × Memory

inductive Handle where
  | input
  | result
deriving DecidableEq, Repr

/-- A call of the library, with what it was given. The encoder is given an open file; its call says
which folder the file is in. -/
inductive Call (lib : Library) where
  | openImage (path : Path)
  | load (image : lib.Image)
  | builtinProfile
  | parseProfile (bytes : lib.Blob)
  | openProfile (path : Path)
  | supportsIntent (profile : lib.Profile) (intent : Intent)
  | defaultIntent (profile : lib.Profile)
  | buildTransform (source target : lib.Profile) (direction : Direction) (intent : Intent)
  | applyTransform (image : lib.Image) (transform : lib.Transform)
  | profileBytes (profile : lib.Profile)
  | encode (image : lib.Image) (options : JpegOptions lib.Blob) (folder : Place)
  | close (handle : Handle) (image : lib.Image)

end InkToScreen
