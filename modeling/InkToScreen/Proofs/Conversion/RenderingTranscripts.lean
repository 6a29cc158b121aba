import InkToScreen.Proofs.Conversion.Backstop

namespace InkToScreen.Plan
variable {lib : Library}

/-- The calls of the conversion with the backstop profile, after some warnings. -/
inductive FallsBackBy (plan : Plan) (image : lib.Image) (target : lib.Profile)
    (kind : ProfileSource) (earlier : List Notice) :
    List (Entry lib) → Except (Stage × Fault) (Rendering lib) → Option Notice → Prop
  | unopened {cause : Fault} :
      FallsBackBy plan image target kind earlier
        [⟨.openBackstop, .openProfile plan.backstop, .error cause⟩] (.error (.backstop, cause)) none
  | unrendered
      (tried : plan.TriesBy .backstop image source target tries (.error cause) warning) :
      FallsBackBy plan image target kind earlier
        (⟨.openBackstop, .openProfile plan.backstop, .ok source⟩ :: tries)
        (.error (.transform, cause)) warning
  | rendered {intent : Intent}
      (tried : plan.TriesBy .backstop image source target tries (.ok (result, intent)) warning) :
      FallsBackBy plan image target kind earlier
        (⟨.openBackstop, .openProfile plan.backstop, .ok source⟩ :: tries)
        (.ok { image := result, source := kind, intent, target,
               warnings := earlier ++ warning.toList }) warning

/-- The calls that come before any source profile, when they succeed. -/
def preparing (plan : Plan) (image : lib.Image) (target : lib.Profile) : List (Entry lib) :=
  [⟨.decode, .load image, .ok ()⟩, plan.targetEntry (.ok target)]

/-- The calls of a rendering, what they come to and the notices that are given. -/
inductive RendersBy (plan : Plan) (input : Input lib) :
    List (Entry lib) → Except (Stage × Fault) (Rendering lib) → List Notice → Prop
  | undecoded {cause : Fault} :
      RendersBy plan input [⟨.decode, .load input.image, .error cause⟩] (.error (.decoding, cause))
        []
  | untargeted {cause : Fault} :
      RendersBy plan input
        [⟨.decode, .load input.image, .ok ()⟩, plan.targetEntry (.error cause)]
        (.error (plan.targetStage, cause)) []
  | embedded {target : lib.Profile} {intent : Intent} (carried : input.profile = some bytes)
      (tried : plan.TriesOwnBy input.image bytes target own (.ok (image, intent)) warning) :
      RendersBy plan input (plan.preparing input.image target ++ own)
        (.ok { image, source := .embedded, intent, target, warnings := warning.toList })
        warning.toList
  | interrupted {target : lib.Profile} (carried : input.profile = some bytes)
      (tried : plan.TriesOwnBy input.image bytes target own (.error cause) warning)
      (unabsorbed : cause.kind.isProfile = false) :
      RendersBy plan input (plan.preparing input.image target ++ own) (.error (.embedded, cause))
        warning.toList
  | fallback {target : lib.Profile} {backstop : List (Entry lib)}
      (carried : input.profile = some bytes)
      (failed : plan.TriesOwnBy input.image bytes target own (.error cause) first)
      (absorbed : cause.kind.isProfile = true)
      (fallen : plan.FallsBackBy input.image target .backstopEmbeddedUnusable
        (first.toList ++ [.embeddedUnusable input.path cause]) backstop given second) :
      RendersBy plan input (plan.preparing input.image target ++ (own ++ backstop)) given
        (first.toList ++ .embeddedUnusable input.path cause :: second.toList)
  | unprofiled {target : lib.Profile} {backstop : List (Entry lib)} (absent : input.profile = none)
      (fallen : plan.FallsBackBy input.image target .backstopNoEmbedded [] backstop given
        warning) :
      RendersBy plan input (plan.preparing input.image target ++ backstop) given
        (.noEmbedded input.path :: warning.toList)

/-- The calls of a transform to screen colours: those of its rendering, and then the bytes of the
profile of the screen are read. -/
inductive TransformsBy (plan : Plan) (input : Input lib) :
    List (Entry lib) → Except (Stage × Fault) (Transformed lib) → List Notice → Prop
  | unrendered (rendered : plan.RendersBy input record (.error stopped) notices) :
      TransformsBy plan input record (.error stopped) notices
  | unread {cause : Fault} (rendered : plan.RendersBy input record (.ok made) notices) :
      TransformsBy plan input
        (record ++ [⟨.readTarget, .profileBytes made.target, .error cause⟩])
        (.error (.profileBytes, cause)) notices
  | transformed {profile : lib.Blob} (rendered : plan.RendersBy input record (.ok made) notices) :
      TransformsBy plan input (record ++ [⟨.readTarget, .profileBytes made.target, .ok profile⟩])
        (.ok { image := made.image, source := made.source, intent := made.intent, profile,
               warnings := made.warnings }) notices

/-- What a run does with a rendering or with the fault that there is in its place. -/
def conclude (plan : Plan) (input output : Path) :
    Except (Stage × Fault) (Rendering lib) → Run lib (Transformed lib)
  | .ok made => finish made.image made.source made.intent made.target made.warnings
  | .error (stage, cause) => Run.fail (stage.failure plan input output cause)

variable {plan : Plan} {input : Input lib} {source target : lib.Profile}
  {before between after : World lib} {tail : List (Entry lib)} {more : List Notice}
  {result : Except Failure (Transformed lib)}

/-- The transcript of the conversion with the backstop profile goes on with what concludes it. -/
theorem FallsBack.traces {kind : ProfileSource} {earlier : List Notice}
    {given : Except (Stage × Fault) (Rendering lib)} (output : Path)
    (fallen : plan.FallsBack input target kind earlier before given between)
    (concluded : (plan.conclude input.path output given).Traces between result tail more after) :
    ∃ record warning, plan.FallsBackBy input.image target kind earlier record given warning ∧
      (plan.useBackstop input target kind earlier).Traces before result (record ++ tail)
        (warning.toList ++ more) after := by
  unfold useBackstop
  have opens {reply : Except Fault lib.Profile} {loadedWorld : World lib} (loaded : Answered
      (lib.openProfile plan.backstop (before.files.readable? plan.backstop)) before reply
      loadedWorld) : plan.backstopProfile.Traces before
        (reply.mapError (Failure.ofFault Kind.isProfile (.backstopUnusable plan.backstop)))
        [⟨.openBackstop, .openProfile plan.backstop, reply⟩] [] loadedWorld :=
    (profileAt_traces .openBackstop loaded).convertingFaults
  have closes (ending : Except Fault (lib.Image × Intent)) :
      (Run.convertingFaults Kind.isProfile (.backstopFailed plan.backstop input.path)
        (Run.ofExcept (ending.mapError .fault))).Traces between
          (ending.mapError
            (Failure.ofFault Kind.isProfile (.backstopFailed plan.backstop input.path))) [] []
          between :=
    (Run.Traces.ofExcept _ between).convertingFaults
  cases fallen with
  | unopened loaded =>
    obtain ⟨rfl, rfl, rfl, rfl⟩ := concluded.eq_of_fail
    exact ⟨_, none, .unopened, (opens loaded).bind_error⟩
  | @unrendered source loadedWorld cause _ _ loaded tried =>
    obtain ⟨rfl, rfl, rfl, rfl⟩ := concluded.eq_of_fail
    obtain ⟨tries, warning, triedBy, rfl, traces⟩ :=
      tried.traces (.pure source loadedWorld)
    refine ⟨_, warning, .unrendered triedBy, (opens loaded).mute_bind ?_⟩
    exact traces.bind (closes (.error cause)).bind_error
  | @rendered source loadedWorld image _ _ intent loaded tried =>
    obtain ⟨tries, warning, triedBy, rfl, traces⟩ :=
      tried.traces (.pure source loadedWorld)
    refine ⟨_, warning, .rendered triedBy, (opens loaded).mute_bind ?_⟩
    exact traces.bind ((closes (.ok (image, intent))).mute_bind concluded)

/-- Once the pixels and the profile of the screen are there, a run goes on from the profile. -/
theorem Prepares.traces {path : Path} {image : lib.Image} {record : List (Entry lib)}
    {next : lib.Profile → Run lib (Transformed lib)}
    (prepared : plan.Prepares image before target between)
    (rest : (next target).Traces between result record more after) :
    (Run.convertingFaults Kind.isDecoding (.undecodable path)
      (Run.ask (.load image) (lib.load image)) >>= fun _ => plan.target >>= next).Traces before
        result (plan.preparing image target ++ record) more after := by
  obtain ⟨decoded, loaded, targeted⟩ := prepared
  exact (load_traces path loaded).mute_bind ((targeted.traces path path).mute_bind rest)

section Renderings
variable {path : Path} {image : lib.Image} {files : Files lib.Content}

theorem openBackstop_not_mem_preparing (plan : Plan) (image : lib.Image) (target : lib.Profile) :
    Step.openBackstop ∉ (plan.preparing image target).map Entry.step := by
  unfold preparing targetEntry
  cases plan.srgb <;> simp

theorem TriesOwnBy.openBackstop_not_mem {bytes : lib.Blob} {record : List (Entry lib)}
    {given : Except Fault (lib.Image × Intent)} {warning : Option Notice}
    (tried : plan.TriesOwnBy image bytes target record given warning) :
    Step.openBackstop ∉ record.map Entry.step := by
  intro member
  obtain ⟨entry, taken, same⟩ := List.mem_map.mp member
  have own := tried.triesEmbedded entry taken
  rw [same] at own
  cases own

theorem FallsBackBy.openBackstop_mem {kind : ProfileSource} {earlier : List Notice}
    {record : List (Entry lib)} {given : Except (Stage × Fault) (Rendering lib)}
    {warning : Option Notice}
    (fallen : plan.FallsBackBy image target kind earlier record given warning) :
    Step.openBackstop ∈ record.map Entry.step := by
  cases fallen <;> exact List.mem_cons_self

/-- The transcript of a rendering goes on with what concludes it. The backstop profile is opened in
it exactly when that is needed. -/
theorem Renders.traces {given : Except (Stage × Fault) (Rendering lib)} (output : Path)
    (rendered : plan.Renders (.ofImage path image files) before given between)
    (concluded : (plan.conclude path output given).Traces between result tail more after) :
    ∃ record notices, plan.RendersBy (.ofImage path image files) record given notices ∧
      (Step.openBackstop ∈ record.map Entry.step ↔
        plan.NeedsBackstop (.ofImage path image files) before) ∧
      (plan.toSrgb (.ofImage path image files)).Traces before result (record ++ tail)
        (notices ++ more) after := by
  unfold toSrgb
  have spared {own : List (Entry lib)} {target : lib.Profile}
      (others : Step.openBackstop ∉ own.map Entry.step) :
      Step.openBackstop ∉ (plan.preparing image target ++ own).map Entry.step := by
    rw [List.map_append, List.mem_append, not_or]
    exact ⟨plan.openBackstop_not_mem_preparing image target, others⟩
  have opened {own : List (Entry lib)} {target : lib.Profile}
      (backstop : Step.openBackstop ∈ own.map Entry.step) :
      Step.openBackstop ∈ (plan.preparing image target ++ own).map Entry.step := by
    rw [List.map_append]
    exact List.mem_append_right _ backstop
  cases rendered with
  | undecoded decoded =>
    obtain ⟨rfl, rfl, rfl, rfl⟩ := concluded.eq_of_fail
    refine ⟨_, _, .undecoded, ?_, (load_traces path decoded).bind_error⟩
    exact iff_of_false (by simp) (not_needsBackstop_of_undecoded decoded)
  | @untargeted _ cause _ loaded targeted =>
    obtain ⟨rfl, rfl, rfl, rfl⟩ := concluded.eq_of_fail
    refine ⟨_, _, .untargeted, ?_,
      (load_traces path loaded).mute_bind (targeted.traces path output).bind_error⟩
    refine iff_of_false ?_ (not_needsBackstop_of_untargeted loaded targeted)
    unfold targetEntry
    cases plan.srgb <;> simp
  | embedded prepared carried tried =>
    obtain ⟨own, warning, triedBy, rfl, traces⟩ := tried.traces
    refine ⟨_, _, .embedded carried triedBy, ?_, ?_⟩
    · obtain ⟨given, filled⟩ := Input.profile_eq_some_iff.mp carried
      exact iff_of_false (spared triedBy.openBackstop_not_mem)
        (not_needsBackstop_of_tried prepared given filled tried nofun)
    · rw [List.append_assoc]
      refine prepared.traces ?_
      simp only [carried]
      exact traces.bind concluded
  | @interrupted _ _ cause _ _ _ prepared carried tried unabsorbed =>
    obtain ⟨rfl, rfl, rfl, rfl⟩ := concluded.eq_of_fail
    obtain ⟨own, warning, triedBy, rfl, traces⟩ := tried.traces
    refine ⟨_, _, .interrupted carried triedBy unabsorbed, ?_, ?_⟩
    · obtain ⟨given, filled⟩ := Input.profile_eq_some_iff.mp carried
      refine iff_of_false (spared triedBy.openBackstop_not_mem)
        (not_needsBackstop_of_tried prepared given filled tried ?_)
      rintro _ ⟨⟩
      exact unabsorbed
    · rw [List.append_assoc]
      refine prepared.traces ?_
      simp only [carried]
      refine traces.bind ?_
      change (if cause.kind.isProfile = true then _ else Run.fail (.fault cause) :
        Run lib (Transformed lib)).Traces _ _ _ _ _
      rw [if_neg (Bool.eq_false_iff.mp unabsorbed)]
      exact .fail _ _
  | @fallback _ _ cause _ _ _ _ _ prepared carried failed absorbed fallen =>
    obtain ⟨own, first, failedBy, rfl, traces⟩ := failed.traces
    obtain ⟨backstop, second, fallenBy, falls⟩ := fallen.traces output concluded
    refine ⟨_, _, .fallback carried failedBy absorbed fallenBy, ?_, ?_⟩
    · obtain ⟨given, filled⟩ := Input.profile_eq_some_iff.mp carried
      refine iff_of_true (opened ?_)
        (.unusable prepared given filled failed (Kind.isProfile_iff.mp absorbed))
      rw [List.map_append]
      exact List.mem_append_right _ fallenBy.openBackstop_mem
    · rw [List.append_assoc, List.append_assoc, List.append_assoc]
      refine prepared.traces ?_
      simp only [carried]
      -- the failed attempt gives the first warning, and the rest comes after it
      refine traces.bind ?_
      change (if cause.kind.isProfile = true then _ else Run.fail (.fault cause) :
        Run lib (Transformed lib)).Traces _ _ _ _ _
      rw [if_pos absorbed]
      exact .note _ falls
  | unprofiled prepared absent fallen =>
    obtain ⟨backstop, warning, fallenBy, falls⟩ := fallen.traces output concluded
    refine ⟨_, _, .unprofiled absent fallenBy, ?_, ?_⟩
    · exact iff_of_true (opened fallenBy.openBackstop_mem)
        (.absent prepared (Input.profile_eq_none_iff.mp absent))
    · rw [List.append_assoc]
      refine prepared.traces ?_
      simp only [absent]
      exact .note _ falls

/-- The transcript of the run to screen colours. A fault is what its stage makes of it. -/
theorem Transforms.traces {given : Except (Stage × Fault) (Transformed lib)} (output : Path)
    (transformed : plan.Transforms (.ofImage path image files) before given after) :
    ∃ record notices, plan.TransformsBy (.ofImage path image files) record given notices ∧
      (Step.openBackstop ∈ record.map Entry.step ↔
        plan.NeedsBackstop (.ofImage path image files) before) ∧
      (plan.toSrgb (.ofImage path image files)).Traces before
        (given.mapError fun stopped => stopped.1.failure plan path output stopped.2) record notices
        after := by
  have besides {record : List (Entry lib)} {entry : Entry lib} (reads : entry.step = .readTarget) :
      Step.openBackstop ∈ (record ++ [entry]).map Entry.step ↔
        Step.openBackstop ∈ record.map Entry.step := by
    simp [reads]
  cases transformed with
  | unrendered rendered =>
    obtain ⟨record, notices, renderedBy, fallsBack, traces⟩ :=
      rendered.traces output (.fail _ _)
    rw [List.append_nil, List.append_nil] at traces
    exact ⟨record, notices, .unrendered renderedBy, fallsBack, traces⟩
  | unread rendered read =>
    obtain ⟨record, notices, renderedBy, fallsBack, traces⟩ :=
      rendered.traces output (.ask_bind_error .readTarget read rfl)
    rw [List.append_nil] at traces
    exact ⟨_, notices, .unread renderedBy, (besides rfl).trans fallsBack, traces⟩
  | transformed rendered read =>
    obtain ⟨record, notices, renderedBy, fallsBack, traces⟩ :=
      rendered.traces output (.ask_bind .readTarget read rfl (.pure _ _))
    rw [List.append_nil] at traces
    exact ⟨_, notices, .transformed renderedBy, (besides rfl).trans fallsBack, traces⟩

theorem Transforms.ends {given : Except (Stage × Fault) (Transformed lib)} (output : Path)
    (transformed : plan.Transforms (.ofImage path image files) before given after) :
    (plan.toSrgb (.ofImage path image files)).Ends before
      (given.mapError fun stopped => stopped.1.failure plan path output stopped.2) after := by
  obtain ⟨_, _, _, _, traces⟩ := transformed.traces output
  exact traces.ends

/-- A transform that succeeds does so in one way only. -/
theorem Transforms.unique_ok {given : Except (Stage × Fault) (Transformed lib)}
    {result : Transformed lib} {other : World lib}
    (one : plan.Transforms (.ofImage path image files) before given after)
    (two : plan.Transforms (.ofImage path image files) before (.ok result) other) :
    given = .ok result ∧ after = other := by
  obtain ⟨same, reached⟩ := (one.ends path).unique (two.ends path)
  cases given with
  | error stopped => cases same
  | ok made => exact ⟨congrArg Except.ok (Except.ok.inj same), reached⟩

end Renderings
end InkToScreen.Plan
