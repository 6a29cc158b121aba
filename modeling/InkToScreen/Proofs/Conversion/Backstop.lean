import InkToScreen.Proofs.Conversion.AttemptTranscripts

namespace InkToScreen
variable {lib : Library}

/-- What a profile can cause: a fault of its own, of the system, of a type or of a value. -/
theorem Kind.isProfile_iff {kind : Kind} :
    kind.isProfile = true ↔
      kind = .profile ∨ kind.isSystem = true ∨ kind = .type ∨ kind = .value := by
  simp only [isProfile, Bool.or_eq_true, beq_iff_eq, or_assoc]

namespace Input
variable {path : Path} {image : lib.Image} {files : Files lib.Content}

theorem profile_eq_some_iff {bytes : lib.Blob} :
    (ofImage path image files).profile = some bytes ↔
      (lib.header image).icc = some bytes ∧ lib.isEmpty bytes = false := by
  simp only [ofImage, Option.filter_eq_some_iff, Bool.not_eq_true']

theorem profile_eq_none_iff :
    (ofImage path image files).profile = none ↔
      ∀ bytes, (lib.header image).icc = some bytes → lib.isEmpty bytes = true := by
  simp only [ofImage, Option.filter_eq_none_iff, Bool.not_eq_true', Bool.not_eq_false]

end Input

namespace Plan

/-- The backstop profile is needed: the pixels of a picture can be read, there is a profile of the
screen, and the picture carries no profile or one that fails in a way that a profile can cause. -/
inductive NeedsBackstop (plan : Plan) (picture : Input lib) (before : World lib) : Prop
  | absent {target : lib.Profile} (prepared : plan.Prepares picture.image before target ready)
      (absent : ∀ bytes, (lib.header picture.image).icc = some bytes → lib.isEmpty bytes = true) :
      NeedsBackstop plan picture before
  | unusable {target : lib.Profile} (prepared : plan.Prepares picture.image before target ready)
      (carried : (lib.header picture.image).icc = some bytes) (filled : lib.isEmpty bytes = false)
      (failed : plan.TriesEmbedded picture.image bytes target ready (.error cause) warnings tried)
      (absorbed : cause.kind = .profile ∨ cause.kind.isSystem = true ∨ cause.kind = .type ∨
        cause.kind = .value) :
      NeedsBackstop plan picture before

variable {plan : Plan} {picture : Input lib} {target : lib.Profile} {cause : Fault}
  {before between after : World lib} {warnings : List Notice}

theorem LoadsTarget.unique {given again : Except Fault lib.Profile} {other : World lib}
    (one : plan.LoadsTarget before given after) (two : plan.LoadsTarget before again other) :
    given = again ∧ after = other := by
  unfold LoadsTarget at one two
  cases srgb : plan.srgb with
  | none =>
    rw [srgb] at one two
    exact one.unique two
  | some path =>
    rw [srgb] at one two
    exact one.unique two

theorem Prepares.unique {image : lib.Image} {again : lib.Profile} {other : World lib}
    (one : plan.Prepares image before target after) (two : plan.Prepares image before again other) :
    target = again ∧ after = other := by
  obtain ⟨decoded, loaded, targeted⟩ := one
  obtain ⟨_, loadedAgain, targetedAgain⟩ := two
  obtain ⟨_, rfl⟩ := loaded.unique loadedAgain
  obtain ⟨same, rfl⟩ := targeted.unique targetedAgain
  exact ⟨Except.ok.inj same, rfl⟩

theorem TriesEmbedded.unique {image : lib.Image} {bytes : lib.Blob}
    {given again : Except Fault (lib.Image × Intent)} {more : List Notice} {other : World lib}
    (one : plan.TriesEmbedded image bytes target before given warnings after)
    (two : plan.TriesEmbedded image bytes target before again more other) : given = again := by
  obtain ⟨same, _⟩ := one.ends.unique two.ends
  have endings := congrArg Attempt.ending (Except.ok.inj same)
  cases given with
  | ok made =>
    cases again with
    | ok _ => exact congrArg Except.ok (Except.ok.inj endings)
    | error _ => cases endings
  | error cause =>
    cases again with
    | ok _ => cases endings
    | error _ => exact congrArg Except.error (Failure.fault.inj (Except.error.inj endings))

theorem not_needsBackstop_of_undecoded
    (decoded : Answered (lib.load picture.image) before (.error cause) after) :
    ¬ plan.NeedsBackstop picture before := by
  have unprepared {target : lib.Profile} {ready : World lib} :
      ¬ plan.Prepares picture.image before target ready := by
    rintro ⟨_, loaded, _⟩
    obtain ⟨impossible, _⟩ := decoded.unique loaded
    cases impossible
  rintro (⟨prepared, _⟩ | ⟨prepared, _⟩)
  · exact unprepared prepared
  · exact unprepared prepared

theorem not_needsBackstop_of_untargeted
    (loaded : Answered (lib.load picture.image) before (.ok ()) between)
    (targeted : plan.LoadsTarget between (.error cause) after) :
    ¬ plan.NeedsBackstop picture before := by
  have unprepared {target : lib.Profile} {ready : World lib} :
      ¬ plan.Prepares picture.image before target ready := by
    rintro ⟨_, again, found⟩
    obtain ⟨_, rfl⟩ := loaded.unique again
    obtain ⟨impossible, _⟩ := targeted.unique found
    cases impossible
  rintro (⟨prepared, _⟩ | ⟨prepared, _⟩)
  · exact unprepared prepared
  · exact unprepared prepared

/-- The backstop profile is not needed if the picture's own does, or fails as no profile can. -/
theorem not_needsBackstop_of_tried {bytes : lib.Blob} {given : Except Fault (lib.Image × Intent)}
    (prepared : plan.Prepares picture.image before target between)
    (carried : (lib.header picture.image).icc = some bytes) (filled : lib.isEmpty bytes = false)
    (tried : plan.TriesEmbedded picture.image bytes target between given warnings after)
    (unabsorbed : ∀ cause, given = .error cause → cause.kind.isProfile = false) :
    ¬ plan.NeedsBackstop picture before := by
  rintro (⟨_, absent⟩ | ⟨preparedAgain, carriedAgain, _, failed, absorbed⟩)
  · rw [absent bytes carried] at filled
    cases filled
  · obtain ⟨rfl, rfl⟩ := prepared.unique preparedAgain
    obtain rfl := Option.some.inj (carried.symm.trans carriedAgain)
    have kept := unabsorbed _ (tried.unique failed)
    rw [Kind.isProfile_iff.mpr absorbed] at kept
    cases kept

end Plan
end InkToScreen
