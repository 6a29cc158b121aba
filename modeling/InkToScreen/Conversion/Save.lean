import InkToScreen.Imaging.Run

namespace InkToScreen

/-- The quality from which colours are kept in full resolution. -/
def fullColourQuality : Int := 90

namespace Jpeg
variable {lib : Library}

/-- What the encoder is asked for; empty bytes are left out. -/
def options (quality : Int) (icc exif : Option lib.Blob) : JpegOptions lib.Blob where
  quality := quality
  subsampling := if fullColourQuality ≤ quality then some 0 else none
  icc := icc.filter fun bytes => !lib.isEmpty bytes
  exif := exif.filter fun bytes => !lib.isEmpty bytes

/-- The tree with a scratch file after the encoder has written to it. -/
def written (files : Files lib.Content) (scratch : Scratch) (encoding : Encoding lib.Content) :
    Files lib.Content :=
  if encoding.lost then files.remove scratch.place
  else files.put scratch.place (.file encoding.content Scratch.permissions)

def encode (image : lib.Image) (options : JpegOptions lib.Blob) (scratch : Scratch) :
    Run lib Unit := do
  let world ← Run.look
  let encoding ← Run.ask (.encode image options scratch.folder) fun memory =>
    let (encoding, memory) := lib.encode image options memory
    (.ok encoding, memory)
  Run.setFiles (written world.files scratch encoding)
  match encoding.fault with
  | none => pure ()
  | some cause => Run.fail (.fault cause)

/-- The mask that is set. It can be read only by setting another one, so it is put back. -/
def currentUmask : Run lib Permissions := do
  let mask ← Run.setUmask 0
  let _ ← Run.setUmask mask
  return mask

/-- Gives a scratch file its permission bits and the place of the target. -/
def install (scratch : Scratch) (path : Path) : Run lib Unit := do
  let mask ← currentUmask
  let world ← Run.look
  let permitted ← Run.ofExcept ((world.files.permit scratch (.newFile mask)).mapError .fault)
  Run.setFiles permitted
  let renamed ← Run.ofExcept ((permitted.rename scratch path).mapError .fault)
  Run.setFiles renamed

def discard (scratch : Scratch) : Run lib Unit := do
  let world ← Run.look
  Run.setFiles (world.files.remove scratch.place)

def newScratch (folder : Path) : Run lib Scratch := do
  let world ← Run.look
  Run.ofExcept ((world.files.scratch folder).mapError .fault)

/-- Writes a picture to a path, all or nothing. -/
def save (quality : Int) (image : lib.Image) (path : Path) (icc exif : Option lib.Blob) :
    Run lib Path := do
  let scratch ← Run.convertingFaults Kind.isSystem (.noPlace path.parent) (newScratch path.parent)
  match ← Run.reify (do encode image (options quality icc exif) scratch; install scratch path) with
  | .ok () =>
    Run.note (.wrote path quality)
    return path
  | .error failure =>
    discard scratch
    Run.convertingFaults Kind.isWriting (.notWritten path) (Run.fail failure)

end Jpeg
end InkToScreen
