import InkToScreen.Proofs.Settings.History

namespace InkToScreen

/-- Changes are given for settings that exist, and each value passes its own check. -/
structure Changes.IsSound (changes : Changes) : Prop where
  known : changes.unknown = []
  quality : ∀ quality, changes.quality = some quality → 0 ≤ quality ∧ quality ≤ 100
  extension : ∀ extension, changes.extension = some extension →
    Text.lower extension ∈ jpegExtensions
  pathMax : ∀ pathMax, changes.pathMax = some pathMax → 0 < pathMax
  exitCodes : ∀ table, changes.exitCodes = some table →
    ∀ status, ∃ code, table.code? status = some code

variable {changes : Changes} {draft : Draft} {settings next other : Settings}

/-- Where the value that would be kept passes a check, what is kept or given passes it exactly if
what is given does. -/
theorem getD_passes_iff {α : Type} (given : Option α) {kept : α} (passes : α → Prop)
    (sound : passes kept) :
    passes (given.getD kept) ↔ ∀ value, given = some value → passes value := by
  cases given with
  | none => simpa using sound
  | some value => simp

/-- Put in place of usable values, changes leave all values usable exactly if they are sound. -/
theorem Draft.IsUsable.apply_iff (usable : draft.IsUsable) :
    changes.unknown = [] ∧ (changes.apply draft).IsUsable ↔ changes.IsSound := by
  have quality := getD_passes_iff changes.quality (fun quality => 0 ≤ quality ∧ quality ≤ 100)
    usable.quality
  have extension := getD_passes_iff changes.extension (Text.lower · ∈ jpegExtensions)
    usable.extension
  have pathMax := getD_passes_iff changes.pathMax (0 < ·) usable.pathMax
  have exitCodes := getD_passes_iff changes.exitCodes
    (fun table => ∀ status, ∃ code, table.code? status = some code) usable.exitCodes
  constructor
  · rintro ⟨known, asked⟩
    exact ⟨known, quality.mp asked.quality, extension.mp asked.extension,
      pathMax.mp asked.pathMax, exitCodes.mp asked.exitCodes⟩
  · intro sound
    exact ⟨sound.known, quality.mpr sound.quality, extension.mpr sound.extension,
      pathMax.mpr sound.pathMax, exitCodes.mpr sound.exitCodes⟩

theorem Settings.isUsable_draft (settings : Settings) : settings.draft.IsUsable :=
  Draft.isUsable_iff.mpr ⟨settings, Draft.settings_eq_ok_iff.mp settings.settings_draft⟩

section Given

/-- Settings become what sound changes set, and refuse all others. -/
theorem Settings.change_eq_ok_iff :
    settings.change changes = .ok next ↔ changes.IsSound ∧ changes.Set settings next := by
  rw [← settings.isUsable_draft.apply_iff, Changes.set_iff_isHeldBy]
  by_cases known : changes.unknown = []
  · rw [change_eq_settings known, Draft.settings_eq_ok_iff]
    constructor
    · intro held
      exact ⟨⟨known, Draft.isUsable_iff.mpr ⟨next, held⟩⟩, held⟩
    · rintro ⟨_, held⟩
      exact held
  · obtain ⟨error, refused⟩ : ∃ error, settings.change changes = .error error :=
      change_eq_error_of_unknown known
    rw [refused]
    constructor
    · intro impossible
      cases impossible
    · rintro ⟨⟨impossible, _⟩, _⟩
      exact absurd impossible known

/-- Whether a change is accepted does not depend on the settings that it is made to. -/
theorem Settings.exists_change_iff :
    (∃ next, settings.change changes = .ok next) ↔ changes.IsSound := by
  constructor
  · rintro ⟨next, accepted⟩
    exact (change_eq_ok_iff.mp accepted).1
  · intro sound
    obtain ⟨known, usable⟩ := settings.isUsable_draft.apply_iff.mpr sound
    obtain ⟨next, held⟩ := Draft.isUsable_iff.mp usable
    exact ⟨next, change_eq_ok_iff.mpr ⟨sound, Changes.set_iff_isHeldBy.mpr held⟩⟩

theorem Changes.create_eq_ok_iff :
    changes.create = .ok settings ↔ changes.unknown = [] ∧ (changes.apply {}).IsHeldBy settings := by
  unfold create refusal?
  cases changes.unknown with
  | nil => simpa using Draft.settings_eq_ok_iff
  | cons name rest => simp

/-- The same values are accepted for new settings as for a change of the ones that there are. -/
theorem Changes.exists_create_iff :
    (∃ settings, changes.create = .ok settings) ↔ changes.IsSound := by
  have usable : ({} : Draft).IsUsable :=
    Draft.isUsable_iff.mpr ⟨_, Draft.settings_eq_ok_iff.mp Settings.settings_default⟩
  rw [← usable.apply_iff, Draft.isUsable_iff]
  simp only [create_eq_ok_iff, exists_and_left]

end Given
end InkToScreen
