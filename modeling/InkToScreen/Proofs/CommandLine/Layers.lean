import InkToScreen.CommandLine.Session
import InkToScreen.Proofs.CommandLine.Given
import InkToScreen.Proofs.Settings.Drafts

namespace InkToScreen.CommandLine

/-- The variable of a setting. -/
def Setting.variable : Setting → String
  | backstop => variableStem ++ "BACKSTOP_ICC"
  | srgb => variableStem ++ "SRGB_ICM"
  | quality => variableStem ++ "JPEG_QUALITY"
  | extension => variableStem ++ "JPEG_EXTENSION"
  | intent => variableStem ++ "INTENT"

/-- What the environment gives a setting; the case of an intent does not matter there. -/
def Setting.inEnvironment? (environment : Environment) : Setting → Option String
  | intent => (environment.text? intent.variable).map Text.lower
  | setting => environment.text? setting.variable

/-- What a setting goes by: the text of the command line if there is one, else the environment. -/
def layered? (environment : Environment) (text? : Setting → Option String) (setting : Setting) :
    Option String :=
  (text? setting).or (setting.inEnvironment? environment)

/-- The draft that the command line and the environment ask for. -/
def layeredDraft (environment : Environment) (text? : Setting → Option String) : Draft where
  backstop := ((layered? environment text? .backstop).map Path.ofText).getD defaultBackstop
  srgb := (layered? environment text? .srgb).map Path.ofText
  quality := ((layered? environment text? .quality).bind Text.integer?).getD 99
  extension := (layered? environment text? .extension).getD "jpg"
  intent := ((layered? environment text? .intent).bind Intent.ofName?).getD .relative
  pathMax := 4096
  exitCodes := Status.all.map fun status => (status, environment.code status)

variable {environment : Environment} {settings base : Settings} {options : Options}
  {text? : Setting → Option String}

theorem valueChange_ofOption {α : Type} (given : Option α) :
    valueChange (.ofOption given) = given := by
  cases given <;> rfl

theorem profileChange_ofOption (given : Option Path) :
    profileChange (.ofOption given) = given := by
  cases given <;> rfl

theorem Supplied.ofOption_ne_bare {α : Type} (given : Option α) :
    Supplied.ofOption given ≠ .bare := by
  cases given <;> simp [ofOption]

/-- What options change that hold the values of some texts. -/
theorem Options.Reads.changes (reads : options.Reads text?) :
    options.changes = {
      backstop := (text? .backstop).map Path.ofText
      srgb := (text? .srgb).map Path.ofText
      quality := (text? .quality).bind Text.integer?
      extension := text? .extension
      intent := (text? .intent).bind Intent.ofName? } := by
  unfold Options.changes
  simp only [reads.backstop, reads.srgb, reads.quality, reads.extension, reads.intent,
    valueChange_ofOption, profileChange_ofOption, Supplied.ofOption_ne_bare, if_false]

/-- Options that hold the values of some texts change settings, and what is wrong with the change is
wrong with the layers. -/
theorem Options.Reads.layer_eq (reads : options.Reads text?) :
    options.layer base = (base.change options.changes).mapError .settings := by
  have withNumber : options.quality ≠ .bare := by
    rw [reads.quality]
    exact Supplied.ofOption_ne_bare _
  have withText : options.extension ≠ .bare := by
    rw [reads.extension]
    exact Supplied.ofOption_ne_bare _
  unfold layer
  rw [if_neg withNumber]
  split
  · rename_i layered changed
    rw [changed]
    rfl
  · rename_i extension refused
    rw [if_neg withText, refused]
    rfl
  · rename_i error _ refused
    rw [refused]
    rfl

section Texts
variable {α : Type} {first second : Option String} {usual : α}

theorem getD_bind_or {read : String → Option α}
    (readable : ∀ text, first = some text → read text ≠ none) :
    ((first.or second).bind read).getD usual =
      (first.bind read).getD ((second.bind read).getD usual) := by
  cases first with
  | none => simp
  | some text =>
    obtain ⟨value, isRead⟩ := Option.ne_none_iff_exists'.mp (readable text rfl)
    simp [isRead]

end Texts

/-- The settings of an accepted environment hold what it asks for when the command line gives
nothing. -/
theorem isHeldBy_of_environment (accepted : environment.settings = .ok base) :
    (layeredDraft environment fun _ => none).IsHeldBy base := by
  obtain ⟨_, held⟩ := Environment.settings_eq_ok_iff.mp accepted
  exact held

theorem exitCode_of_isHeldBy (held : (layeredDraft environment text?).IsHeldBy settings)
    (status : Status) : settings.exitCode status = environment.code status := by
  have found := held.exitCodes status
  simp only [layeredDraft, Environment.code?_map_all] at found
  exact (Option.some.inj found).symm

theorem exitCode_of_environment (accepted : environment.settings = .ok base) (status : Status) :
    base.exitCode status = environment.code status :=
  exitCode_of_isHeldBy (isHeldBy_of_environment accepted) status

/-- Changed by options, the settings of the environment ask for what the layers ask for. -/
theorem Options.Reads.apply_changes (reads : options.Reads text?)
    (below : (layeredDraft environment fun _ => none).IsHeldBy base) :
    options.changes.apply base.draft = layeredDraft environment text? := by
  have codes : base.exitCodes.table = (layeredDraft environment text?).exitCodes := by
    simp only [ExitCodes.table, layeredDraft, ← exitCode_of_isHeldBy below]
    rfl
  have pathMax : (base.pathMax : Int) = 4096 := below.pathMax
  have srgb : ((text? .srgb).map Path.ofText <|> base.srgb) =
      (layeredDraft environment text?).srgb := by
    rw [below.srgb]
    exact Option.orElse_eq_or.trans Option.map_or.symm
  -- a default under the environment under the command line is a default under both
  rw [reads.changes]
  simp only [Changes.apply, Settings.draft, Option.getD_none, below.backstop, srgb, below.quality,
    below.extension, below.intent, codes, pathMax]
  simp only [layeredDraft, layered?, Option.none_or, getD_bind_or reads.numeric,
    getD_bind_or reads.named, Option.getD_or, Option.map_or]

/-- Options over the settings of the environment come to what the layered draft comes to. -/
theorem Options.Reads.layer_eq_settings (reads : options.Reads text?)
    (accepted : environment.settings = .ok base) :
    options.layer base = (layeredDraft environment text?).settings.mapError .settings := by
  have known : options.changes.unknown = [] := rfl
  rw [reads.layer_eq, Settings.change_eq_settings known,
    reads.apply_changes (isHeldBy_of_environment accepted)]

end InkToScreen.CommandLine
