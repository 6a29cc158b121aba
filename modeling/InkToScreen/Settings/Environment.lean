import InkToScreen.Settings.Basic
import InkToScreen.Text.Integer

namespace InkToScreen

abbrev Environment := List (String × String)

def variableStem : String := "CMYK2SRGB_"

def exitVariable (status : Status) : String :=
  variableStem ++ "EXIT_" ++ status.name

namespace Environment

def names : List String :=
  let settings := ["BACKSTOP_ICC", "SRGB_ICM", "JPEG_QUALITY", "JPEG_EXTENSION", "INTENT"]
  settings.map (variableStem ++ ·) ++ Status.all.map exitVariable

def text? (environment : Environment) (name : String) : Option String :=
  (environment.lookup name).filter (· ≠ "")

def path? (environment : Environment) (name : String) : Option Path :=
  (environment.text? name).map Path.ofText

def integer? (environment : Environment) (name : String) : Except SettingsError (Option Int) :=
  match environment.text? name with
  | none => .ok none
  | some text => match Text.integer? text with
    | some number => .ok (some number)
    | none => .error (.notAnInteger name text)

/-- The intent of the environment, in any case. -/
def intent? (environment : Environment) : Except SettingsError (Option Intent) :=
  match environment.text? (variableStem ++ "INTENT") with
  | none => .ok none
  | some text => match Intent.ofName? (Text.lower text) with
    | some intent => .ok (some intent)
    | none => .error (.unknownIntent (Text.lower text))

/-- The exit code of an outcome, the default one unless a variable gives another. -/
def exitCode (environment : Environment) (status : Status) : Except SettingsError (Status × Int) :=
  (environment.integer? (exitVariable status)).map fun code =>
    (status, code.getD status.defaultCode)

def draft (environment : Environment) : Except SettingsError Draft := do
  let quality ← environment.integer? (variableStem ++ "JPEG_QUALITY")
  let intent ← environment.intent?
  let codes ← Status.all.mapM environment.exitCode
  return {
    backstop := (environment.path? (variableStem ++ "BACKSTOP_ICC")).getD defaultBackstop
    srgb := environment.path? (variableStem ++ "SRGB_ICM")
    quality := quality.getD 99
    extension := (environment.text? (variableStem ++ "JPEG_EXTENSION")).getD "jpg"
    intent := intent.getD .relative
    exitCodes := codes }

def settings (environment : Environment) : Except SettingsError Settings := do
  (← environment.draft).settings

end Environment
end InkToScreen
