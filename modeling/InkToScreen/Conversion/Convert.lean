import InkToScreen.Conversion.Save
import InkToScreen.Conversion.Transform
import InkToScreen.Settings.Basic

namespace InkToScreen

/-- Settings with the plan and the quality that a conversion uses. -/
structure Converter where
  settings : Settings
  plan : Plan
  quality : Int

namespace Converter

def planOf (settings : Settings) : Plan where
  backstop := settings.backstop
  srgb := settings.srgb
  intent := settings.intent

/-- A converter by settings, some of which may be put aside by a plan or a quality of its own. -/
def ofSettings (settings : Settings) (plan : Option Plan := none) (quality : Option Int := none) :
    Converter where
  settings := settings
  plan := plan.getD (planOf settings)
  quality := quality.getD settings.quality

def stemError? (settings : Settings) (stem : String) : Option ConversionError :=
  if stem = "" then some .emptyName
  else if settings.maxStemLength < stem.utf8ByteSize then
    some (.longName stem.utf8ByteSize settings.maxStemLength)
  else none

variable {lib : Library}

def produce (converter : Converter) (input : Input lib) (output : String) :
    Run lib (Transformed lib) := do
  let result ← converter.plan.toSrgb input
  Run.ensuring (do
    let _ ←
      Jpeg.save converter.quality result.image (.ofText output) (some result.profile) input.exif
    return result) (Run.close .result result.image)

/-- Work on an open picture: one in process inks is converted, any other is left alone. -/
def work (converter : Converter) (output : String) (picture : Input lib) :
    Run lib (Option (Transformed lib)) := do
  if picture.isCmyk then
    some <$> converter.produce picture output
  else
    Run.note (.notCmyk picture.path picture.interpretation)
    return none

def attempt (converter : Converter) (input : Path) (stem : String) : Run lib Status := do
  match stemError? converter.settings stem with
  | some error => Run.fail (.conversion error)
  | none =>
    let output := converter.settings.outputName stem
    match ← Input.use input (converter.work output) with
    | none => return .probablyNotCmyk
    | some result =>
      Run.note (.converted input output result.source result.intent)
      return result.source.status

/-- The notice that a failure becomes; failures of other kinds are not for a conversion to hide. -/
def report? (input : String) : Failure → Option Notice
  | .conversion error => some (.gaveUp error)
  | .fault cause =>
    if cause.kind = .missing ∨ cause.kind = .value then some (.unusableInput cause)
    else if cause.kind.isSystem then some (.unreadableInput input cause)
    else none

/-- A conversion: one status, unless a failure of another kind ends it. -/
def convert (converter : Converter) (input stem : String) : Run lib Status := do
  match ← Run.reify (converter.attempt (.ofText input) stem) with
  | .ok status => return status
  | .error failure => match report? input failure with
    | none => Run.fail failure
    | some notice =>
      Run.note notice
      return .fatalError

end Converter
end InkToScreen
