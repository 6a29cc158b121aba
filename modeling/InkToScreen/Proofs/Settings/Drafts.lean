import InkToScreen.Proofs.Answers
import InkToScreen.Settings.Changes
import InkToScreen.Settings.Environment

namespace InkToScreen
variable {settings : Settings}

/-- Settings hold what a draft asks for. -/
structure Draft.IsHeldBy (draft : Draft) (settings : Settings) : Prop where
  backstop : settings.backstop = draft.backstop
  srgb : settings.srgb = draft.srgb
  quality : (settings.quality : Int) = draft.quality
  extension : settings.extension = draft.extension
  intent : settings.intent = draft.intent
  pathMax : (settings.pathMax : Int) = draft.pathMax
  exitCodes : ∀ status, draft.exitCodes.code? status = some (settings.exitCode status)

section Checks
variable {draft : Draft}

theorem ExitCodes.ext_get {first second : ExitCodes}
    (same : ∀ status, first.get status = second.get status) : first = second := by
  obtain ⟨_, _, _, _, _⟩ := first
  obtain ⟨_, _, _, _, _⟩ := second
  congr
  · exact same .probablyNotCmyk
  · exact same .fatalError
  · exact same .cmykWithUnusableIcc
  · exact same .cmykNoIcc
  · exact same .cmykWithUsableIcc

theorem CodeTable.missing_eq_nil_iff {table : CodeTable} :
    table.missing = [] ↔ ∀ status, ∃ code, table.code? status = some code := by
  simp [missing, List.filter_eq_nil_iff, Status.mem_all, Option.ne_none_iff_exists']

/-- A draft becomes the settings that hold what it asks for, if there are any. -/
theorem Draft.settings_eq_ok_iff : draft.settings = .ok settings ↔ draft.IsHeldBy settings := by
  constructor
  · intro checked
    unfold Draft.settings at checked
    split at checked
    · rename_i range
      split at checked
      · split at checked
        · rename_i positive
          split at checked
          · rename_i complete
            cases checked
            refine ⟨rfl, rfl, Int.toNat_of_nonneg range.1, rfl, rfl,
              Int.toNat_of_nonneg (Int.le_of_lt positive), ?_⟩
            intro status
            obtain ⟨code, found⟩ := CodeTable.missing_eq_nil_iff.mp complete status
            rw [Settings.exitCode, ExitCodes.get_ofTable found, found]
          · cases checked
        · cases checked
      · cases checked
    · cases checked
  · intro held
    obtain ⟨backstop, srgb, quality, extension, intent, pathMax, exitCodes⟩ := draft
    obtain ⟨rfl, rfl, rfl, rfl, rfl, rfl, codes⟩ := held
    have range : (0 : Int) ≤ settings.quality ∧ (settings.quality : Int) ≤ 100 :=
      ⟨Int.natCast_nonneg _, by exact_mod_cast settings.quality_le⟩
    have complete : exitCodes.missing = [] :=
      CodeTable.missing_eq_nil_iff.mpr fun status => ⟨_, codes status⟩
    have same : ExitCodes.ofTable exitCodes = settings.exitCodes :=
      ExitCodes.ext_get fun status => ExitCodes.get_ofTable (codes status)
    simp [Draft.settings, range, settings.pathMax_pos, settings.extension_jpeg, complete, same]

/-- A change without unknown names is checked as a whole. -/
theorem Settings.change_eq_settings {changes : Changes} (known : changes.unknown = []) :
    settings.change changes = (changes.apply settings.draft).settings := by
  unfold change
  split
  · rename_i empty
    rw [beq_iff_eq.mp empty]
    exact settings.settings_draft.symm
  · simp [Changes.refusal?, known]

end Checks

namespace Environment
variable {environment : Environment} {name : String}

/-- The exit code that a variable gives, if it gives one, or the default one. -/
def code (environment : Environment) (status : Status) : Int :=
  ((environment.text? (exitVariable status)).bind Text.integer?).getD status.defaultCode

/-- A variable has the text of an integer, unless it counts as absent. -/
def HasInteger (environment : Environment) (name : String) : Prop :=
  ∀ text, environment.text? name = some text → ∃ number, Text.integer? text = some number

/-- The texts of an environment can be read: a quality and exit codes as integers, and an intent as
the name of one, in any case. -/
structure IsReadable (environment : Environment) : Prop where
  quality : environment.HasInteger (variableStem ++ "JPEG_QUALITY")
  intent : ∀ text, environment.text? (variableStem ++ "INTENT") = some text →
    ∃ intent : Intent, Text.lower text = intent.name
  exitCodes : ∀ status, environment.HasInteger (exitVariable status)

theorem integer?_eq_ok_iff {number : Option Int} :
    environment.integer? name = .ok number ↔ environment.HasInteger name ∧
      number = (environment.text? name).bind Text.integer? := by
  unfold integer? HasInteger
  cases environment.text? name with
  | none => simpa using eq_comm
  | some text =>
    cases isNumber : Text.integer? text with
    | none => simp [isNumber]
    | some value => simpa [isNumber] using eq_comm

theorem intent?_eq_ok_iff {intent : Option Intent} :
    environment.intent? = .ok intent ↔
      (∀ text, environment.text? (variableStem ++ "INTENT") = some text →
        ∃ intent : Intent, Text.lower text = intent.name) ∧
      intent =
        ((environment.text? (variableStem ++ "INTENT")).map Text.lower).bind Intent.ofName? := by
  unfold intent?
  simp only [← Intent.ofName?_eq_some_iff]
  cases environment.text? (variableStem ++ "INTENT") with
  | none => simpa using eq_comm
  | some text =>
    cases isIntent : Intent.ofName? (Text.lower text) with
    | none => simp [isIntent]
    | some value => simpa [isIntent] using eq_comm

theorem exitCode_eq_ok_iff (status : Status) (entry : Status × Int) :
    environment.exitCode status = .ok entry ↔
      environment.HasInteger (exitVariable status) ∧ entry = (status, environment.code status) := by
  simp only [exitCode, map_eq_ok_iff, integer?_eq_ok_iff, and_assoc, exists_and_left,
    exists_eq_left, code]
  exact and_congr_right fun _ => eq_comm

theorem code?_map_all (code : Status → Int) (status : Status) :
    CodeTable.code? (Status.all.map fun status => (status, code status)) status =
      some (code status) := by
  cases status <;> rfl

/-- What an environment asks for, if it can be read. -/
def asked (environment : Environment) : Draft where
  backstop := (environment.path? (variableStem ++ "BACKSTOP_ICC")).getD defaultBackstop
  srgb := environment.path? (variableStem ++ "SRGB_ICM")
  quality := ((environment.text? (variableStem ++ "JPEG_QUALITY")).bind Text.integer?).getD 99
  extension := (environment.text? (variableStem ++ "JPEG_EXTENSION")).getD "jpg"
  intent := (((environment.text? (variableStem ++ "INTENT")).map Text.lower).bind
    Intent.ofName?).getD .relative
  exitCodes := Status.all.map fun status => (status, environment.code status)

/-- An environment that can be read, and no other, gives a draft. -/
theorem draft_eq_ok_iff {draft : Draft} :
    environment.draft = .ok draft ↔ environment.IsReadable ∧ draft = environment.asked := by
  unfold Environment.draft
  simp only [bind_eq_ok_iff, integer?_eq_ok_iff, intent?_eq_ok_iff,
    mapM_eq_ok_iff exitCode_eq_ok_iff]
  constructor
  · rintro ⟨_, ⟨quality, rfl⟩, _, ⟨intent, rfl⟩, _, ⟨exitCodes, rfl⟩, given⟩
    cases given
    exact ⟨⟨quality, intent, fun status => exitCodes status status.mem_all⟩, rfl⟩
  · rintro ⟨⟨quality, intent, exitCodes⟩, rfl⟩
    exact ⟨_, ⟨quality, rfl⟩, _, ⟨intent, rfl⟩, _, ⟨fun status _ => exitCodes status, rfl⟩, rfl⟩

/-- The settings of an environment hold what it asks for. -/
theorem settings_eq_ok_iff :
    environment.settings = .ok settings ↔
      environment.IsReadable ∧ environment.asked.IsHeldBy settings := by
  simp only [Environment.settings, bind_eq_ok_iff, draft_eq_ok_iff, Draft.settings_eq_ok_iff,
    and_assoc, exists_and_left, exists_eq_left]

end Environment
end InkToScreen
