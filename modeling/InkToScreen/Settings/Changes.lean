import InkToScreen.Settings.Basic

namespace InkToScreen

/-- Values to put in place of settings, and names without a setting of their own. -/
structure Changes where
  backstop : Option Path := none
  srgb : Option Path := none
  quality : Option Int := none
  extension : Option String := none
  intent : Option Intent := none
  pathMax : Option Int := none
  exitCodes : Option CodeTable := none
  unknown : List String := []
deriving DecidableEq, Repr

namespace Changes

def isEmpty (changes : Changes) : Bool :=
  changes == {}

def apply (changes : Changes) (draft : Draft) : Draft where
  backstop := changes.backstop.getD draft.backstop
  srgb := changes.srgb <|> draft.srgb
  quality := changes.quality.getD draft.quality
  extension := changes.extension.getD draft.extension
  intent := changes.intent.getD draft.intent
  pathMax := changes.pathMax.getD draft.pathMax
  exitCodes := changes.exitCodes.getD draft.exitCodes

/-- Why values are refused for their names, if they are. A change looks for the settings' own name
first; new settings take the names in order. -/
def refusal? (changes : Changes) : Purpose → Option SettingsError
  | .change =>
    if changes.unknown.contains ownName then some (.ownNameGiven .change)
    else changes.unknown.head?.map .unknownSetting
  | .creation => changes.unknown.head?.map fun name =>
    if name = ownName then .ownNameGiven .creation else .unknownSetting name

def create (changes : Changes) : Except SettingsError Settings :=
  match changes.refusal? .creation with
  | some error => .error error
  | none => (changes.apply {}).settings

end Changes

/-- Settings after a change, checked again as a whole. -/
def Settings.change (settings : Settings) (changes : Changes) : Except SettingsError Settings :=
  if changes.isEmpty then .ok settings
  else match changes.refusal? .change with
    | some error => .error error
    | none => (changes.apply settings.draft).settings

end InkToScreen
