import InkToScreen.Proofs.Settings.Drafts

namespace InkToScreen

/-- A draft asks for values that pass the four checks. -/
structure Draft.IsUsable (draft : Draft) : Prop where
  quality : 0 ≤ draft.quality ∧ draft.quality ≤ 100
  extension : Text.lower draft.extension ∈ jpegExtensions
  pathMax : 0 < draft.pathMax
  exitCodes : ∀ status, ∃ code, draft.exitCodes.code? status = some code

/-- Settings can hold exactly what is usable. -/
theorem Draft.isUsable_iff {draft : Draft} :
    draft.IsUsable ↔ ∃ settings, draft.IsHeldBy settings := by
  constructor
  · intro usable
    have range := usable.quality
    have positive := usable.pathMax
    refine ⟨{
      backstop := draft.backstop
      srgb := draft.srgb
      quality := draft.quality.toNat
      extension := draft.extension
      intent := draft.intent
      pathMax := draft.pathMax.toNat
      exitCodes := .ofTable draft.exitCodes
      quality_le := by omega
      extension_jpeg := List.contains_iff_mem.mpr usable.extension
      pathMax_pos := by omega }, rfl, rfl, ?_, rfl, rfl, ?_, ?_⟩
    · exact Int.toNat_of_nonneg range.1
    · exact Int.toNat_of_nonneg (Int.le_of_lt positive)
    · intro status
      obtain ⟨code, found⟩ := usable.exitCodes status
      rw [found, Settings.exitCode, ExitCodes.get_ofTable found]
  · rintro ⟨settings, held⟩
    have upper := settings.quality_le
    have positive := settings.pathMax_pos
    have range := held.quality
    have limit := held.pathMax
    refine ⟨by omega, ?_, by omega, fun status => ⟨_, held.exitCodes status⟩⟩
    rw [← held.extension]
    exact List.contains_iff_mem.mp settings.extension_jpeg

/-- What settings are first made from. -/
inductive Source where
  | values (given : Changes)
  | environment (set : Environment)

namespace Source

def settings : Source → Except SettingsError Settings
  | values given => given.create
  | environment set => set.settings

/-- What a source asks for, unless it cannot be read. -/
def asked : Source → Except SettingsError Draft
  | values given => match given.refusal? .creation with
    | some error => .error error
    | none => .ok (given.apply {})
  | environment set => set.draft

theorem settings_eq_ok_iff {source : Source} {start : Settings} :
    source.settings = .ok start ↔ ∃ draft, source.asked = .ok draft ∧ draft.IsHeldBy start := by
  have checked : source.settings = source.asked >>= Draft.settings := by
    cases source with
    | values given =>
      simp only [settings, Changes.create, asked]
      cases given.refusal? .creation <;> rfl
    | environment set => rfl
  rw [checked, bind_eq_ok_iff]
  simp only [Draft.settings_eq_ok_iff]

end Source

namespace Settings

/-- The settings after a call to change them; a refusal leaves them as they are. -/
def attempt (settings : Settings) (changes : Changes) : Settings :=
  match settings.change changes with
  | .ok next => next
  | .error _ => settings

def after (settings : Settings) (calls : List Changes) : Settings :=
  calls.foldl attempt settings

end Settings

/-- Values that are given are set and the others stay. -/
structure Changes.Set (changes : Changes) (before after : Settings) : Prop where
  backstop : after.backstop = changes.backstop.getD before.backstop
  srgb : after.srgb = changes.srgb.or before.srgb
  quality : (after.quality : Int) = changes.quality.getD before.quality
  extension : after.extension = changes.extension.getD before.extension
  intent : after.intent = changes.intent.getD before.intent
  pathMax : (after.pathMax : Int) = changes.pathMax.getD before.pathMax
  exitCodes : ∀ status, (changes.exitCodes.getD before.exitCodes.table).code? status =
    some (after.exitCode status)

/-- How a call to change settings is answered, and the settings after it. -/
inductive Settings.Answers (current : Settings) (changes : Changes) :
    Except SettingsError Settings → Settings → Prop
  | unchanged (nothing : changes = {}) : Answers current changes (.ok current) current
  | changed (given : changes ≠ {}) (known : changes.unknown = [])
      (usable : (changes.apply current.draft).IsUsable) (set : changes.Set current next) :
      Answers current changes (.ok next) next
  | refused (given : changes ≠ {})
      (unfit : changes.unknown ≠ [] ∨ ¬ (changes.apply current.draft).IsUsable) :
      Answers current changes (.error error) current

/-- What is asked for after some calls: the values of each call are put in place of those before, as
long as all remains usable. -/
inductive Draft.Becomes : Draft → List Changes → Draft → Prop
  | same : Becomes draft [] draft
  | set (known : changes.unknown = []) (usable : (changes.apply draft).IsUsable)
      (rest : Becomes (changes.apply draft) calls last) : Becomes draft (changes :: calls) last
  | kept (unfit : changes.unknown ≠ [] ∨ ¬ (changes.apply draft).IsUsable)
      (rest : Becomes draft calls last) : Becomes draft (changes :: calls) last

section Calls
variable {draft : Draft} {current next : Settings} {changes : Changes} {calls : List Changes}
  {source : Source}

/-- Values put in place of what settings hold come to the same as put in place of the settings. -/
theorem Draft.IsHeldBy.apply_iff (held : draft.IsHeldBy current) :
    (changes.apply draft).IsHeldBy next ↔ (changes.apply current.draft).IsHeldBy next := by
  obtain ⟨backstop, srgb, quality, extension, intent, pathMax, exitCodes⟩ := draft
  obtain ⟨rfl, rfl, rfl, rfl, rfl, rfl, codes⟩ := held
  have same (status : Status) : (changes.exitCodes.getD exitCodes).code? status =
      (changes.exitCodes.getD current.exitCodes.table).code? status := by
    have own := (Draft.settings_eq_ok_iff.mp current.settings_draft).exitCodes status
    cases changes.exitCodes with
    | none => exact (codes status).trans own.symm
    | some table => rfl
  constructor
  · intro asked
    exact { asked with exitCodes := fun status => (same status).symm.trans (asked.exitCodes status) }
  · intro asked
    exact { asked with exitCodes := fun status => (same status).trans (asked.exitCodes status) }

theorem Draft.IsHeldBy.isUsable_apply_iff (held : draft.IsHeldBy current) :
    (changes.apply draft).IsUsable ↔ (changes.apply current.draft).IsUsable := by
  rw [isUsable_iff, isUsable_iff]
  exact exists_congr fun next => held.apply_iff

theorem Changes.set_iff_isHeldBy :
    changes.Set current next ↔ (changes.apply current.draft).IsHeldBy next := by
  have either : (changes.srgb <|> current.srgb) = changes.srgb.or current.srgb := Option.orElse_eq_or
  constructor
  · intro set
    exact { set with srgb := set.srgb.trans either.symm }
  · intro held
    exact { held with srgb := held.srgb.trans either }

theorem Settings.change_eq_error_of_unknown (unknown : changes.unknown ≠ []) :
    ∃ error, current.change changes = .error error := by
  have given : changes.isEmpty = false := by
    refine beq_eq_false_iff_ne.mpr ?_
    rintro rfl
    exact unknown rfl
  obtain ⟨name, rest, isUnknown⟩ := List.exists_cons_of_ne_nil unknown
  rw [change, if_neg (by simp [given])]
  by_cases own : changes.unknown.contains ownName
  · rw [Changes.refusal?, if_pos own]
    exact ⟨_, rfl⟩
  · rw [Changes.refusal?, if_neg own, isUnknown]
    exact ⟨_, rfl⟩

/-- Each call is answered by the settings as they are, by changed ones or by a refusal. -/
theorem Settings.change_answers (current : Settings) (changes : Changes) :
    current.Answers changes (current.change changes) (current.attempt changes) := by
  unfold attempt
  by_cases nothing : changes = {}
  · have unchanged : current.change changes = .ok current := by
      rw [change, Changes.isEmpty, if_pos (beq_iff_eq.mpr nothing)]
    rw [unchanged]
    exact .unchanged nothing
  by_cases known : changes.unknown = []
  · rw [change_eq_settings known]
    cases checked : (changes.apply current.draft).settings with
    | ok next =>
      have held := Draft.settings_eq_ok_iff.mp checked
      have usable := Draft.isUsable_iff.mpr ⟨next, held⟩
      exact .changed nothing known usable (Changes.set_iff_isHeldBy.mpr held)
    | error error =>
      refine .refused nothing (.inr fun usable => ?_)
      obtain ⟨next, held⟩ := Draft.isUsable_iff.mp usable
      rw [Draft.settings_eq_ok_iff.mpr held] at checked
      cases checked
  · obtain ⟨error, refused⟩ : ∃ error, current.change changes = .error error :=
      change_eq_error_of_unknown known
    rw [refused]
    exact .refused nothing (.inl known)

/-- Settings go on holding what is asked for, whatever calls are made. -/
theorem Draft.IsHeldBy.becomes (held : draft.IsHeldBy current) (calls : List Changes) :
    ∃ last, draft.Becomes calls last ∧ last.IsHeldBy (current.after calls) := by
  induction calls generalizing draft current with
  | nil => exact ⟨draft, .same, held⟩
  | cons changes rest ih =>
    have answers := current.change_answers changes
    change ∃ last, draft.Becomes (changes :: rest) last ∧
      last.IsHeldBy ((current.attempt changes).after rest)
    generalize current.change changes = answer, current.attempt changes = next at answers ⊢
    cases answers with
    | unchanged nothing =>
      -- a call that gives nothing is read as an accepted one, which puts nothing in place
      subst nothing
      obtain ⟨last, becomes, heldAfter⟩ := ih held
      exact ⟨last, .set rfl (Draft.isUsable_iff.mpr ⟨current, held⟩) becomes, heldAfter⟩
    | changed _ known usable set =>
      have heldNext := held.apply_iff.mpr (Changes.set_iff_isHeldBy.mp set)
      obtain ⟨last, becomes, heldAfter⟩ := ih heldNext
      exact ⟨last, .set known (held.isUsable_apply_iff.mpr usable) becomes, heldAfter⟩
    | refused _ unfit =>
      obtain ⟨last, becomes, heldAfter⟩ := ih held
      exact ⟨last, .kept (unfit.imp_right (mt held.isUsable_apply_iff.mp)) becomes, heldAfter⟩

theorem Settings.after_concat (settings : Settings) :
    settings.after (calls ++ [changes]) = (settings.after calls).attempt changes := by
  rw [after, List.foldl_append]
  rfl

end Calls

/-- Over any series of calls the settings hold usable values, those that were asked for at first
with what the accepted calls gave put in place; a refusal changes nothing. -/
theorem Source.usable_after {source : Source} {start : Settings}
    (made : source.settings = .ok start) (calls : List Changes) (changes : Changes) :
    (start.after calls).draft.IsUsable ∧
      (∃ draft last, source.asked = .ok draft ∧ draft.Becomes calls last ∧
        last.IsHeldBy (start.after calls)) ∧
      (start.after calls).Answers changes ((start.after calls).change changes)
        (start.after (calls ++ [changes])) := by
  obtain ⟨draft, asks, held⟩ := settings_eq_ok_iff.mp made
  obtain ⟨last, becomes, heldAfter⟩ := held.becomes calls
  refine ⟨?_, ⟨draft, last, asks, becomes, heldAfter⟩, ?_⟩
  · exact Draft.isUsable_iff.mpr ⟨_, Draft.settings_eq_ok_iff.mp (Settings.settings_draft _)⟩
  · rw [Settings.after_concat]
    exact Settings.change_answers _ changes

/-- A quality out of range, an extension in capitals and a setting that does not exist. -/
def mixedCalls : List Changes :=
  [{ quality := some 150 }, { extension := some "JPG" }, { unknown := ["speed"] }]

def partialCodes : Changes :=
  { exitCodes := some [(.fatalError, 255)] }

/-- Refused calls leave no trace, and exit codes for just one outcome are refused after them. -/
theorem Source.usable_after_mixed_calls :
    ∃ start, (Source.environment [("CMYK2SRGB_JPEG_QUALITY", "80")]).settings = .ok start ∧
      (start.after mixedCalls).draft.IsUsable ∧
      (start.after mixedCalls).quality = 80 ∧ (start.after mixedCalls).extension = "JPG" ∧
      start.after (mixedCalls ++ [partialCodes]) = start.after mixedCalls := by
  have made : ∃ start, (Source.environment [("CMYK2SRGB_JPEG_QUALITY", "80")]).settings = .ok start ∧
      (start.after mixedCalls).quality = 80 ∧ (start.after mixedCalls).extension = "JPG" :=
    ⟨_, rfl, rfl, rfl⟩
  obtain ⟨start, isStart, quality, extension⟩ := made
  obtain ⟨usable, _, answers⟩ := usable_after isStart mixedCalls partialCodes
  have unfit : ¬ (partialCodes.apply (start.after mixedCalls).draft).IsUsable := by
    intro complete
    obtain ⟨code, found⟩ := complete.exitCodes .cmykNoIcc
    cases found
  refine ⟨start, isStart, usable, quality, extension, ?_⟩
  generalize (start.after mixedCalls).change partialCodes = answer,
    start.after (mixedCalls ++ [partialCodes]) = next at answers ⊢
  cases answers with
  | unchanged nothing => cases nothing
  | changed _ _ usable _ => exact absurd usable unfit
  | refused _ _ => rfl

end InkToScreen
