import InkToScreen.Color.Intent
import InkToScreen.Path
import InkToScreen.Settings.ExitCodes
import InkToScreen.Text.Lower
import InkToScreen.Text.Quoted

namespace InkToScreen

def jpegExtensions : List String := ["jpg", "jpeg", "jpe", "jfif"]

/-- An extension names a JPEG file whatever its case. -/
def isJpegExtension (extension : String) : Bool :=
  jpegExtensions.contains (Text.lower extension)

/-- What values are given for: new settings, or a change of the ones that there are. -/
inductive Purpose where
  | creation
  | change
deriving DecidableEq, Repr

def Purpose.name : Purpose → String
  | creation => "__init__"
  | change => "with_overrides"

/-- The name that the settings themselves go by, so that no value can be given for it. -/
def ownName : String := "self"

inductive SettingsError where
  | qualityOutOfRange (quality : Int)
  | notJpegExtension (extension : String)
  | extensionWithoutText
  | pathMaxNotPositive (pathMax : Int)
  | exitCodesMissing (statuses : List Status)
  | notAnInteger (name text : String)
  | unknownIntent (text : String)
  | unknownSetting (name : String)
  | ownNameGiven (purpose : Purpose)
deriving DecidableEq, Repr

def SettingsError.message : SettingsError → String
  | qualityOutOfRange quality => "JPEG quality must be within 0..100, got " ++ toString quality
  | notJpegExtension extension => "Not a JPEG extension: " ++ Text.quoted extension
  | extensionWithoutText => "Not a JPEG extension: []"
  | pathMaxNotPositive pathMax => "path_max must be positive, got " ++ toString pathMax
  | exitCodesMissing statuses =>
    "Exit codes missing for: " ++ ", ".intercalate (statuses.map Status.name)
  | notAnInteger name text => name ++ " must be an integer, got " ++ Text.quoted text
  | unknownIntent text => Text.quoted text ++ " is not a valid RenderingIntent"
  | unknownSetting name =>
    "ConverterConfig.__init__() got an unexpected keyword argument '" ++ name ++ "'"
  | ownNameGiven purpose =>
    "ConverterConfig." ++ purpose.name ++ "() got multiple values for argument '" ++ ownName ++ "'"

def defaultBackstop : Path :=
  Path.ofText "/usr/local/share/nip2/data/HP5000_UVDuraImageGlossMaxQ.icc"

/-- Settings as asked for, not yet checked. -/
structure Draft where
  backstop : Path := defaultBackstop
  srgb : Option Path := none
  quality : Int := 99
  extension : String := "jpg"
  intent : Intent := .relative
  pathMax : Int := 4096
  exitCodes : CodeTable := (ExitCodes.ofFunction Status.defaultCode).table
deriving DecidableEq, Repr

/-- Settings that can be used. -/
structure Settings where
  backstop : Path
  srgb : Option Path
  quality : Nat
  extension : String
  intent : Intent
  pathMax : Nat
  exitCodes : ExitCodes
  quality_le : quality ≤ 100
  extension_jpeg : isJpegExtension extension = true
  pathMax_pos : 0 < pathMax
deriving DecidableEq

/-- Settings from a draft, or the first fault in the order quality, extension, path limit, exit
codes. -/
def Draft.settings (draft : Draft) : Except SettingsError Settings :=
  if quality : 0 ≤ draft.quality ∧ draft.quality ≤ 100 then
    if extension : isJpegExtension draft.extension = true then
      if pathMax : 0 < draft.pathMax then
        match draft.exitCodes.missing with
        | [] => .ok {
            backstop := draft.backstop
            srgb := draft.srgb
            quality := draft.quality.toNat
            extension := draft.extension
            intent := draft.intent
            pathMax := draft.pathMax.toNat
            exitCodes := .ofTable draft.exitCodes
            quality_le := by omega
            extension_jpeg := extension
            pathMax_pos := by omega }
        | missing => .error (.exitCodesMissing missing)
      else .error (.pathMaxNotPositive draft.pathMax)
    else .error (.notJpegExtension draft.extension)
  else .error (.qualityOutOfRange draft.quality)

namespace Settings

def draft (settings : Settings) : Draft where
  backstop := settings.backstop
  srgb := settings.srgb
  quality := settings.quality
  extension := settings.extension
  intent := settings.intent
  pathMax := settings.pathMax
  exitCodes := settings.exitCodes.table

/-- Bytes kept free in an output name for the longest quality directive. -/
def directiveMargin : Nat := "[Q=100]".utf8ByteSize

def outputName (settings : Settings) (stem : String) : String :=
  stem ++ "." ++ settings.extension

/-- Bytes left for a stem beside the dot, the extension and the margin; there may be none. -/
def maxStemLength (settings : Settings) : Int :=
  (settings.pathMax : Int) - (settings.extension.utf8ByteSize + 1 + directiveMargin : Nat)

def exitCode (settings : Settings) (status : Status) : Int :=
  settings.exitCodes.get status

/-- The settings that there are when nothing is asked for. -/
def usual : Settings where
  backstop := defaultBackstop
  srgb := none
  quality := 99
  extension := "jpg"
  intent := .relative
  pathMax := 4096
  exitCodes := .ofFunction Status.defaultCode
  quality_le := by decide
  extension_jpeg := by decide
  pathMax_pos := by decide

/-- Checking settings again finds no fault and changes nothing. -/
theorem settings_draft (settings : Settings) : settings.draft.settings = .ok settings := by
  have range : (0 : Int) ≤ settings.quality ∧ (settings.quality : Int) ≤ 100 :=
    ⟨Int.natCast_nonneg _, by exact_mod_cast settings.quality_le⟩
  simp [Draft.settings, draft, range, settings.pathMax_pos, settings.extension_jpeg,
    ExitCodes.missing_table, ExitCodes.ofTable_table]

/-- The defaults pass their own checks. -/
theorem settings_default : ({} : Draft).settings = .ok usual :=
  settings_draft usual

end Settings
end InkToScreen
