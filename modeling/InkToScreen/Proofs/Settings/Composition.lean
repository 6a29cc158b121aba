import InkToScreen.Proofs.Settings.SoundChanges

namespace InkToScreen

namespace Changes

/-- Two changes in one. Of two values for one setting the later one counts. -/
def followedBy (first second : Changes) : Changes where
  backstop := second.backstop.or first.backstop
  srgb := second.srgb.or first.srgb
  quality := second.quality.or first.quality
  extension := second.extension.or first.extension
  intent := second.intent.or first.intent
  pathMax := second.pathMax.or first.pathMax
  exitCodes := second.exitCodes.or first.exitCodes
  unknown := first.unknown ++ second.unknown

/-- No setting is given a value by both of two changes. -/
structure Apart (first second : Changes) : Prop where
  backstop : first.backstop = none ∨ second.backstop = none
  srgb : first.srgb = none ∨ second.srgb = none
  quality : first.quality = none ∨ second.quality = none
  extension : first.extension = none ∨ second.extension = none
  intent : first.intent = none ∨ second.intent = none
  pathMax : first.pathMax = none ∨ second.pathMax = none
  exitCodes : first.exitCodes = none ∨ second.exitCodes = none

end Changes

/-- The settings after two changes, the second one being made to what the first one gives. -/
def Settings.inTurn (settings : Settings) (first second : Changes) :
    Except SettingsError Settings := do
  (← settings.change first).change second

variable {settings next last other : Settings} {first second changes : Changes}

section Values
variable {α : Type} {early late : Option α}

theorem getD_or (early late : Option α) (kept : α) :
    (late.or early).getD kept = late.getD (early.getD kept) := by
  cases late with
  | none => rfl
  | some value => rfl

theorem or_comm_of_none (lone : early = none ∨ late = none) : late.or early = early.or late := by
  rcases lone with rfl | rfl
  · rw [Option.or_none, Option.none_or]
  · rw [Option.or_none, Option.none_or]

end Values

namespace Changes

theorem Set.unique (set : changes.Set settings next) (again : changes.Set settings other) :
    next = other := by
  have one := Draft.settings_eq_ok_iff.mpr (set_iff_isHeldBy.mp set)
  have two := Draft.settings_eq_ok_iff.mpr (set_iff_isHeldBy.mp again)
  exact Except.ok.inj (one.symm.trans two)

/-- Settings hold their own exit codes. -/
theorem code?_table (settings : Settings) (status : Status) :
    settings.exitCodes.table.code? status = some (settings.exitCode status) :=
  (Draft.settings_eq_ok_iff.mp settings.settings_draft).exitCodes status

/-- What two changes set in turn is what they set in one. -/
theorem Set.followedBy (set : first.Set settings next) (setToo : second.Set next last) :
    (first.followedBy second).Set settings last where
  backstop := by rw [setToo.backstop, set.backstop]; exact (getD_or _ _ _).symm
  srgb := by rw [setToo.srgb, set.srgb]; exact (Option.or_assoc ..).symm
  quality := by rw [setToo.quality, set.quality]; exact (getD_or _ _ _).symm
  extension := by rw [setToo.extension, set.extension]; exact (getD_or _ _ _).symm
  intent := by rw [setToo.intent, set.intent]; exact (getD_or _ _ _).symm
  pathMax := by rw [setToo.pathMax, set.pathMax]; exact (getD_or _ _ _).symm
  exitCodes := by
    intro status
    have early := set.exitCodes status
    have late := setToo.exitCodes status
    rw [Changes.followedBy, getD_or]
    cases given : second.exitCodes with
    | some table =>
      rw [given] at late
      exact late
    | none =>
      -- the table of the first change is kept by what it says, not letter by letter
      rw [given, Option.getD_none, code?_table next] at late
      rw [Option.getD_none, early, Option.some.inj late]

theorem IsSound.followedBy (sound : first.IsSound) (soundToo : second.IsSound) :
    (first.followedBy second).IsSound := by
  have either {α : Type} {passes : α → Prop} {early late : Option α}
      (one : ∀ value, early = some value → passes value)
      (two : ∀ value, late = some value → passes value) :
      ∀ value, late.or early = some value → passes value := by
    intro value given
    rcases Option.or_eq_some_iff.mp given with later | ⟨_, earlier⟩
    · exact two value later
    · exact one value earlier
  refine ⟨?_, either sound.quality soundToo.quality, either sound.extension soundToo.extension,
    either sound.pathMax soundToo.pathMax, either sound.exitCodes soundToo.exitCodes⟩
  rw [Changes.followedBy, sound.known, soundToo.known]
  rfl

theorem Apart.followedBy_comm (apart : first.Apart second) (known : first.unknown = [])
    (knownToo : second.unknown = []) : first.followedBy second = second.followedBy first := by
  simp only [followedBy, or_comm_of_none apart.backstop, or_comm_of_none apart.srgb,
    or_comm_of_none apart.quality, or_comm_of_none apart.extension, or_comm_of_none apart.intent,
    or_comm_of_none apart.pathMax, or_comm_of_none apart.exitCodes, known, knownToo]

theorem Apart.symm (apart : first.Apart second) : second.Apart first :=
  ⟨apart.backstop.symm, apart.srgb.symm, apart.quality.symm, apart.extension.symm,
    apart.intent.symm, apart.pathMax.symm, apart.exitCodes.symm⟩

/-- What changes have set they set again to the same values. -/
theorem Set.again (set : changes.Set settings next) : changes.Set next next where
  backstop := by rw [set.backstop]; cases changes.backstop <;> rfl
  srgb := by rw [set.srgb]; cases changes.srgb <;> simp
  quality := by rw [set.quality]; cases changes.quality <;> rfl
  extension := by rw [set.extension]; cases changes.extension <;> rfl
  intent := by rw [set.intent]; cases changes.intent <;> rfl
  pathMax := by rw [set.pathMax]; cases changes.pathMax <;> rfl
  exitCodes := by
    intro status
    have given := set.exitCodes status
    cases isGiven : changes.exitCodes with
    | none => exact code?_table next status
    | some table =>
      rw [isGiven] at given
      exact given

end Changes

namespace Settings

/-- Two changes are accepted in turn exactly if each of them is sound, and give what they set in
one. -/
theorem inTurn_eq_ok_iff :
    settings.inTurn first second = .ok last ↔
      first.IsSound ∧ second.IsSound ∧ (first.followedBy second).Set settings last := by
  rw [inTurn, bind_eq_ok_iff]
  constructor
  · rintro ⟨next, accepted, acceptedToo⟩
    obtain ⟨sound, set⟩ := change_eq_ok_iff.mp accepted
    obtain ⟨soundToo, setToo⟩ := change_eq_ok_iff.mp acceptedToo
    exact ⟨sound, soundToo, set.followedBy setToo⟩
  · rintro ⟨sound, soundToo, set⟩
    obtain ⟨next, accepted⟩ := (@exists_change_iff first settings).mpr sound
    obtain ⟨reached, acceptedToo⟩ := (@exists_change_iff second next).mpr soundToo
    have both := (change_eq_ok_iff.mp accepted).2.followedBy (change_eq_ok_iff.mp acceptedToo).2
    obtain rfl := both.unique set
    exact ⟨next, accepted, acceptedToo⟩

theorem inTurn_of_apart (apart : first.Apart second)
    (accepted : settings.inTurn first second = .ok last) :
    settings.inTurn second first = .ok last := by
  obtain ⟨sound, soundToo, set⟩ := inTurn_eq_ok_iff.mp accepted
  rw [apart.followedBy_comm sound.known soundToo.known] at set
  exact inTurn_eq_ok_iff.mpr ⟨soundToo, sound, set⟩

/-- Changes that are accepted in turn are accepted as one; those that give no setting two values may
change places; and one that is made twice is answered as if it were made once. -/
theorem changes_compose (settings : Settings) (first second : Changes) :
    (∀ last, settings.inTurn first second = .ok last →
      settings.change (first.followedBy second) = .ok last) ∧
    (first.Apart second → ∀ last,
      settings.inTurn first second = .ok last ↔ settings.inTurn second first = .ok last) ∧
    settings.inTurn first first = settings.change first := by
  refine ⟨fun last accepted => ?_, fun apart last => ?_, ?_⟩
  · obtain ⟨sound, soundToo, set⟩ := inTurn_eq_ok_iff.mp accepted
    exact change_eq_ok_iff.mpr ⟨sound.followedBy soundToo, set⟩
  · exact ⟨inTurn_of_apart apart, inTurn_of_apart apart.symm⟩
  · unfold inTurn
    cases accepted : settings.change first with
    | error refused => rfl
    | ok next =>
      obtain ⟨sound, set⟩ := change_eq_ok_iff.mp accepted
      exact change_eq_ok_iff.mpr ⟨sound, set.again⟩

/-- One exit code for all outcomes, and the lowest quality. -/
def plainCodes : Changes :=
  { quality := some 0, exitCodes := some (Status.all.map fun status => (status, 7)) }

def roomyNames : Changes :=
  { extension := some "JPEG", pathMax := some 9000 }

/-- A table of exit codes goes with other names in either order and in one change. -/
theorem changes_compose_plainCodes :
    plainCodes.Apart roomyNames ∧
      ∃ last, usual.inTurn plainCodes roomyNames = .ok last ∧
        usual.inTurn roomyNames plainCodes = .ok last ∧
        usual.change (plainCodes.followedBy roomyNames) = .ok last ∧
        last.exitCode .cmykNoIcc = 7 ∧ last.pathMax = 9000 := by
  have apart : plainCodes.Apart roomyNames :=
    ⟨.inl rfl, .inl rfl, .inr rfl, .inl rfl, .inl rfl, .inl rfl, .inr rfl⟩
  have made : ∃ last, usual.inTurn plainCodes roomyNames = .ok last ∧
      last.exitCode .cmykNoIcc = 7 ∧ last.pathMax = 9000 :=
    ⟨_, rfl, rfl, rfl⟩
  obtain ⟨last, accepted, code, limit⟩ := made
  obtain ⟨inOne, swapped, _⟩ := changes_compose usual plainCodes roomyNames
  exact ⟨apart, last, accepted, (swapped apart last).mp accepted, inOne last accepted, code, limit⟩

end Settings
end InkToScreen
