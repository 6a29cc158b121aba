import InkToScreen.Conversion.Input

namespace InkToScreen

/-- The profiles and the intent to convert with; without a profile of the screen the built-in one is
used. -/
structure Plan where
  backstop : Path
  srgb : Option Path
  intent : Intent
deriving DecidableEq, Repr

structure Transformed (lib : Library) where
  image : lib.Image
  source : ProfileSource
  intent : Intent
  profile : lib.Blob
  warnings : List Notice

/-- One try to convert with a source profile: the warnings it gave and how it ended. -/
structure Attempt (lib : Library) where
  warnings : List Notice
  ending : Except Failure (lib.Image × Intent)

namespace Plan
variable {lib : Library}

def profileAt (path : Path) : Run lib lib.Profile := do
  let world ← Run.look
  Run.ask (.openProfile path) (lib.openProfile path (world.files.readable? path))

def target (plan : Plan) : Run lib lib.Profile :=
  match plan.srgb with
  | none => Run.ask .builtinProfile lib.builtinProfile
  | some path => Run.convertingFaults Kind.isProfile (.targetUnusable path) (profileAt path)

def backstopProfile (plan : Plan) : Run lib lib.Profile :=
  Run.convertingFaults Kind.isProfile (.backstopUnusable plan.backstop) (profileAt plan.backstop)

/-- The intent to use with a source profile, and the warning if it is not the wanted one. -/
def usableIntent (plan : Plan) (role : Role) (source : lib.Profile) :
    Run lib (Intent × List Notice) := do
  let supported ←
    Run.ask (.supportsIntent source plan.intent) (lib.supportsIntent source plan.intent)
  if supported = 1 then return (plan.intent, [])
  let number ← Run.ask (.defaultIntent source) (lib.defaultIntent source)
  match Intent.ofNumber? number with
  | none => Run.fail (.fault (.unknownIntent number))
  | some intent =>
    let warning := Notice.intentFallback plan.intent role intent
    Run.note warning
    return (intent, [warning])

def render (image : lib.Image) (source target : lib.Profile) (intent : Intent) :
    Run lib lib.Image := do
  let transform ←
    Run.ask (.buildTransform source target .toScreen intent)
      (lib.buildTransform source target .toScreen intent)
  match ← Run.ask (.applyTransform image transform) (lib.applyTransform image transform) with
  | none => Run.fail (.fault .noPicture)
  | some result => return result

/-- A try to convert with a source profile that is still to be read. -/
def attempt (plan : Plan) (role : Role) (image : lib.Image) (source : Run lib lib.Profile)
    (target : lib.Profile) : Run lib (Attempt lib) := do
  match ← Run.reify source with
  | .error failure => return ⟨[], .error failure⟩
  | .ok source => match ← Run.reify (plan.usableIntent role source) with
    | .error failure => return ⟨[], .error failure⟩
    | .ok (intent, warnings) =>
      let ending ← Run.reify (render image source target intent)
      return ⟨warnings, ending.map fun result => (result, intent)⟩

def finish (image : lib.Image) (source : ProfileSource) (intent : Intent) (target : lib.Profile)
    (warnings : List Notice) : Run lib (Transformed lib) := do
  let profile ← Run.ask (.profileBytes target) (lib.profileBytes target)
  return { image, source, intent, profile, warnings }

/-- The conversion with the backstop profile, after some warnings. -/
def useBackstop (plan : Plan) (input : Input lib) (target : lib.Profile) (source : ProfileSource)
    (warnings : List Notice) : Run lib (Transformed lib) := do
  let backstop ← plan.backstopProfile
  let tried ← plan.attempt .backstop input.image (pure backstop) target
  let (image, intent) ←
    Run.convertingFaults Kind.isProfile (.backstopFailed plan.backstop input.path)
      (Run.ofExcept tried.ending)
  finish image source intent target (warnings ++ tried.warnings)

def parse (bytes : lib.Blob) : Run lib lib.Profile :=
  Run.ask (.parseProfile bytes) (lib.parseProfile bytes)

/-- The picture in screen colours. -/
def toSrgb (plan : Plan) (input : Input lib) : Run lib (Transformed lib) := do
  Run.convertingFaults Kind.isDecoding (.undecodable input.path)
    (Run.ask (.load input.image) (lib.load input.image))
  let target ← plan.target
  match input.profile with
  | none =>
    Run.note (.noEmbedded input.path)
    plan.useBackstop input target .backstopNoEmbedded []
  | some bytes =>
    let tried ← plan.attempt .embedded input.image (parse bytes) target
    match tried.ending with
    | .ok (image, intent) => finish image .embedded intent target tried.warnings
    | .error (.conversion error) => Run.fail (.conversion error)
    | .error (.fault cause) =>
      if cause.kind.isProfile then
        let warning := Notice.embeddedUnusable input.path cause
        Run.note warning
        plan.useBackstop input target .backstopEmbeddedUnusable (tried.warnings ++ [warning])
      else Run.fail (.fault cause)

end Plan
end InkToScreen
