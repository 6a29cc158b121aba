import InkToScreen.Color.Intent
import InkToScreen.Color.Interpretation
import InkToScreen.Failure
import InkToScreen.Settings.Basic
import InkToScreen.Status

namespace InkToScreen

inductive Level where
  | debug
  | info
  | warning
  | error
deriving DecidableEq, Repr

namespace Level

def name : Level → String
  | debug => "DEBUG"
  | info => "INFO"
  | warning => "WARNING"
  | error => "ERROR"

def rank : Level → Nat
  | debug => 0
  | info => 1
  | warning => 2
  | error => 3

end Level

/-- The two places that a source profile comes from. -/
inductive Role where
  | embedded
  | backstop
deriving DecidableEq, Repr

def Role.label : Role → String
  | embedded => "embedded profile"
  | backstop => "backstop profile"

inductive Notice where
  | opened (path : Path) (mode : String) (width height : Int) (interpretation : Interpretation)
      (hasProfile : Bool)
  | notCmyk (path : Path) (interpretation : Interpretation)
  | noEmbedded (path : Path)
  | embeddedUnusable (path : Path) (cause : Fault)
  | intentFallback (wanted : Intent) (role : Role) (used : Intent)
  | wrote (path : Path) (quality : Int)
  | converted (input : Path) (output : String) (source : ProfileSource) (intent : Intent)
  | gaveUp (error : ConversionError)
  | unusableInput (cause : Fault)
  | unreadableInput (input : String) (cause : Fault)
  | invalidSettings (error : SettingsError)
deriving DecidableEq, Repr

namespace Notice

def level : Notice → Level
  | opened _ _ _ _ _ _ => .debug
  | notCmyk _ _ => .info
  | noEmbedded _ => .info
  | embeddedUnusable _ _ => .warning
  | intentFallback _ _ _ => .warning
  | wrote _ _ => .debug
  | converted _ _ _ _ => .info
  | gaveUp _ => .error
  | unusableInput _ => .error
  | unreadableInput _ _ => .error
  | invalidSettings _ => .error

/-- The reason at the end of an error notice about a conversion. -/
def reason? : Notice → Option Reason
  | gaveUp error => some error.reason
  | unusableInput _ => some .inputUnreadable
  | unreadableInput _ _ => some .inputUnreadable
  | _ => none

def flagName (flag : Bool) : String :=
  if flag then "True" else "False"

def text : Notice → String
  | opened path mode width height interpretation hasProfile =>
    "Opened " ++ path.text ++ ": " ++ mode ++ " " ++ toString width ++ "x" ++ toString height ++
      ", interpretation=" ++ interpretation.name ++ ", embedded ICC=" ++ flagName hasProfile
  | notCmyk path interpretation =>
    path.text ++ " is " ++ interpretation.name ++ ", not CMYK; nothing to do"
  | noEmbedded path => "No embedded ICC profile in " ++ path.text ++ "; using backstop profile"
  | embeddedUnusable path cause =>
    "Embedded ICC profile of " ++ path.text ++ " is unusable (" ++ cause.message ++
      "); using backstop profile"
  | intentFallback wanted role used =>
    "Intent " ++ wanted.name ++ " not supported by " ++ role.label ++
      "; falling back to default intent " ++ used.name
  | wrote path quality => "Wrote " ++ path.text ++ " (quality " ++ toString quality ++ ")"
  | converted input output source intent =>
    "Converted " ++ input.text ++ " -> " ++ output ++ " using " ++ source.name ++
      " (intent " ++ intent.name ++ "): " ++ source.status.name
  | gaveUp error => error.message
  | unusableInput cause => cause.message
  | unreadableInput input cause => "Cannot read " ++ input ++ ": " ++ cause.message
  | invalidSettings error => "Invalid configuration: " ++ error.message

/-- The words of a notice, with the reason at the end if there is one. -/
def message (notice : Notice) : String :=
  match notice.reason? with
  | none => notice.text
  | some reason => notice.text ++ " (" ++ reason.name ++ ")"

def line (notice : Notice) : String :=
  notice.level.name ++ " " ++ notice.message

end Notice
end InkToScreen
