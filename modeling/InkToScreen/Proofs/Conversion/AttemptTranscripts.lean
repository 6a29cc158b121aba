import InkToScreen.Proofs.Conversion.Rendering
import InkToScreen.Proofs.Conversion.Transcripts

namespace InkToScreen.Plan
variable {lib : Library}

/-- The calls that settle which intent a source profile is used with, what they come to, and the
warning if it is not the wanted one. -/
inductive ChoosesBy (plan : Plan) (role : Role) (source : lib.Profile) :
    List (Entry lib) → Except Fault Intent → Option Notice → Prop
  | unqueried {cause : Fault} :
      ChoosesBy plan role source
        [⟨.queryIntent role, .supportsIntent source plan.intent, .error cause⟩] (.error cause) none
  | wanted :
      ChoosesBy plan role source
        [⟨.queryIntent role, .supportsIntent source plan.intent, .ok (1 : Int)⟩] (.ok plan.intent)
        none
  | undefaulted {answer : Int} {cause : Fault} (other : answer ≠ 1) :
      ChoosesBy plan role source
        [⟨.queryIntent role, .supportsIntent source plan.intent, .ok answer⟩,
          ⟨.queryDefault role, .defaultIntent source, .error cause⟩] (.error cause) none
  | unknown {answer number : Int} (other : answer ≠ 1)
      (unknown : ∀ intent : Intent, number ≠ intent.number) :
      ChoosesBy plan role source
        [⟨.queryIntent role, .supportsIntent source plan.intent, .ok answer⟩,
          ⟨.queryDefault role, .defaultIntent source, .ok number⟩] (.error (.unknownIntent number))
        none
  | fallback {answer : Int} {intent : Intent} (other : answer ≠ 1) :
      ChoosesBy plan role source
        [⟨.queryIntent role, .supportsIntent source plan.intent, .ok answer⟩,
          ⟨.queryDefault role, .defaultIntent source, .ok (intent.number : Int)⟩] (.ok intent)
        (some (.intentFallback plan.intent role intent))

/-- The calls that make a picture with a source profile, and what they come to. -/
inductive PaintsBy (role : Role) (image : lib.Image) (source target : lib.Profile)
    (intent : Intent) : List (Entry lib) → Except Fault lib.Image → Prop
  | unbuilt {cause : Fault} :
      PaintsBy role image source target intent
        [⟨.build role, .buildTransform source target .toScreen intent, .error cause⟩] (.error cause)
  | unapplied {transform : lib.Transform} {cause : Fault} :
      PaintsBy role image source target intent
        [⟨.build role, .buildTransform source target .toScreen intent, .ok transform⟩,
          ⟨.apply role, .applyTransform image transform, .error cause⟩] (.error cause)
  | empty {transform : lib.Transform} :
      PaintsBy role image source target intent
        [⟨.build role, .buildTransform source target .toScreen intent, .ok transform⟩,
          ⟨.apply role, .applyTransform image transform, .ok none⟩] (.error .noPicture)
  | painted {transform : lib.Transform} {result : lib.Image} :
      PaintsBy role image source target intent
        [⟨.build role, .buildTransform source target .toScreen intent, .ok transform⟩,
          ⟨.apply role, .applyTransform image transform, .ok (some result)⟩] (.ok result)

/-- The calls of the attempt with a source profile. -/
inductive TriesBy (plan : Plan) (role : Role) (image : lib.Image) (source target : lib.Profile) :
    List (Entry lib) → Except Fault (lib.Image × Intent) → Option Notice → Prop
  | unchosen (chosen : plan.ChoosesBy role source record (.error cause) warning) :
      TriesBy plan role image source target record (.error cause) warning
  | unpainted {intent : Intent} (chosen : plan.ChoosesBy role source queries (.ok intent) warning)
      (painted : PaintsBy role image source target intent painting (.error cause)) :
      TriesBy plan role image source target (queries ++ painting) (.error cause) warning
  | painted {intent : Intent} (chosen : plan.ChoosesBy role source queries (.ok intent) warning)
      (painted : PaintsBy role image source target intent painting (.ok result)) :
      TriesBy plan role image source target (queries ++ painting) (.ok (result, intent)) warning

/-- The calls of the attempt with the picture's own profile, which begins with its bytes. -/
inductive TriesOwnBy (plan : Plan) (image : lib.Image) (bytes : lib.Blob) (target : lib.Profile) :
    List (Entry lib) → Except Fault (lib.Image × Intent) → Option Notice → Prop
  | unparsed {cause : Fault} :
      TriesOwnBy plan image bytes target [⟨.parse, .parseProfile bytes, .error cause⟩]
        (.error cause) none
  | parsed (tried : plan.TriesBy .embedded image source target tries given warning) :
      TriesOwnBy plan image bytes target (⟨.parse, .parseProfile bytes, .ok source⟩ :: tries) given
        warning

/-- The call that makes or opens the profile of the screen. -/
def targetEntry (plan : Plan) (reply : Except Fault lib.Profile) : Entry lib :=
  match plan.srgb with
  | none => ⟨.openTarget, .builtinProfile, reply⟩
  | some path => ⟨.openTarget, .openProfile path, reply⟩

variable {plan : Plan} {role : Role} {source target : lib.Profile} {intent : Intent}
  {before after : World lib} {warnings : List Notice}

theorem Chooses.traces {given : Except Fault Intent}
    (chosen : plan.Chooses role source before given warnings after) :
    ∃ record warning, plan.ChoosesBy role source record given warning ∧
      warnings = warning.toList ∧ (plan.usableIntent role source).Traces before
        ((given.map fun intent => (intent, warnings)).mapError .fault) record warnings after := by
  unfold usableIntent
  cases chosen with
  | unqueried asked =>
    exact ⟨_, none, .unqueried, rfl, .ask_bind_error (.queryIntent role) asked rfl⟩
  | wanted asked =>
    exact ⟨_, none, .wanted, rfl, .ask_bind (.queryIntent role) asked rfl (.pure _ _)⟩
  | undefaulted asked other defaulted =>
    refine ⟨_, none, .undefaulted other, rfl, .ask_bind (.queryIntent role) asked rfl ?_⟩
    rw [if_neg other]
    exact .ask_bind_error (.queryDefault role) defaulted rfl
  | @unknown _ _ number _ asked other defaulted unknown =>
    refine ⟨_, none, .unknown other unknown, rfl, .ask_bind (.queryIntent role) asked rfl ?_⟩
    rw [if_neg other]
    refine .ask_bind (.queryDefault role) defaulted rfl ?_
    have none : Intent.ofNumber? number = none := by
      cases named : Intent.ofNumber? number with
      | none => rfl
      | some intent => exact absurd (Intent.ofNumber?_eq_some_iff.mp named) (unknown intent)
    rw [none]
    exact .fail _ _
  | @fallback _ _ _ intent asked other defaulted =>
    refine ⟨_, some _, .fallback other, rfl, .ask_bind (.queryIntent role) asked rfl ?_⟩
    rw [if_neg other]
    refine .ask_bind (.queryDefault role) defaulted rfl ?_
    rw [Intent.ofNumber?_number intent]
    exact .note _ (.pure _ _)

theorem Paints.traces {image : lib.Image} {given : Except Fault lib.Image} (role : Role)
    (painted : Paints image source target intent before given after) :
    ∃ record, PaintsBy role image source target intent record given ∧
      (render image source target intent).Traces before (given.mapError .fault) record []
        after := by
  unfold render
  cases painted with
  | unbuilt built => exact ⟨_, .unbuilt, .ask_bind_error (.build role) built rfl⟩
  | unapplied built applied =>
    refine ⟨_, .unapplied, .ask_bind (.build role) built rfl ?_⟩
    exact .ask_bind_error (.apply role) applied rfl
  | empty built applied =>
    refine ⟨_, .empty, .ask_bind (.build role) built rfl ?_⟩
    exact .ask_bind (.apply role) applied rfl (.fail _ _)
  | painted built applied =>
    refine ⟨_, .painted, .ask_bind (.build role) built rfl ?_⟩
    exact .ask_bind (.apply role) applied rfl (.pure _ _)

/-- The transcript of an attempt goes on from that of the run which the profile comes from. -/
theorem Tries.traces {image : lib.Image} {start : Run lib lib.Profile} {begun : World lib}
    {opening : List (Entry lib)} {given : Except Fault (lib.Image × Intent)}
    (opens : start.Traces begun (.ok source) opening [] before)
    (tried : plan.Tries role image source target before given warnings after) :
    ∃ tries warning, plan.TriesBy role image source target tries given warning ∧
      warnings = warning.toList ∧ (plan.attempt role image start target).Traces begun
        (.ok ⟨warnings, given.mapError .fault⟩) (opening ++ tries) warnings after := by
  unfold attempt
  cases tried with
  | unchosen chosen =>
    obtain ⟨queries, warning, chosenBy, given, asks⟩ := chosen.traces
    refine ⟨queries, warning, .unchosen chosenBy, given, opens.reify.mute_bind ?_⟩
    exact asks.reify.bind_silent (.pure _ _)
  | unpainted chosen painted =>
    obtain ⟨queries, warning, chosenBy, given, asks⟩ := chosen.traces
    obtain ⟨painting, paintedBy, paints⟩ := painted.traces role
    refine ⟨queries ++ painting, warning, .unpainted chosenBy paintedBy, given,
      opens.reify.mute_bind (asks.reify.bind_mute ?_)⟩
    exact paints.reify.bind_silent (.pure _ _)
  | painted chosen painted =>
    obtain ⟨queries, warning, chosenBy, given, asks⟩ := chosen.traces
    obtain ⟨painting, paintedBy, paints⟩ := painted.traces role
    refine ⟨queries ++ painting, warning, .painted chosenBy paintedBy, given,
      opens.reify.mute_bind (asks.reify.bind_mute ?_)⟩
    exact paints.reify.bind_silent (.pure _ _)

theorem TriesEmbedded.traces {image : lib.Image} {bytes : lib.Blob}
    {given : Except Fault (lib.Image × Intent)}
    (tried : plan.TriesEmbedded image bytes target before given warnings after) :
    ∃ record warning, plan.TriesOwnBy image bytes target record given warning ∧
      warnings = warning.toList ∧ (plan.attempt .embedded image (parse bytes) target).Traces before
        (.ok ⟨warnings, given.mapError .fault⟩) record warnings after := by
  cases tried with
  | unparsed parsed =>
    have parses := Run.Traces.ask .parse (.parseProfile bytes) parsed rfl
    exact ⟨_, none, .unparsed, rfl, parses.reify.bind_silent (.pure _ _)⟩
  | parsed parsed tried =>
    obtain ⟨tries, warning, triedBy, given, traces⟩ :=
      tried.traces (.ask .parse (.parseProfile bytes) parsed rfl)
    exact ⟨_, warning, .parsed triedBy, given, traces⟩

theorem TriesEmbedded.ends {image : lib.Image} {bytes : lib.Blob}
    {given : Except Fault (lib.Image × Intent)}
    (tried : plan.TriesEmbedded image bytes target before given warnings after) :
    (plan.attempt .embedded image (parse bytes) target).Ends before
      (.ok ⟨warnings, given.mapError .fault⟩) after := by
  obtain ⟨_, _, _, _, traces⟩ := tried.traces
  exact traces.ends

theorem profileAt_traces {path : Path} {given : Except Fault lib.Profile} (step : Step)
    (loaded : Answered (lib.openProfile path (before.files.readable? path)) before given after) :
    (profileAt path).Traces before (given.mapError .fault) [⟨step, .openProfile path, given⟩] []
      after :=
  .look (.ask step (.openProfile path) loaded rfl)

theorem LoadsTarget.traces {given : Except Fault lib.Profile} (input output : Path)
    (targeted : plan.LoadsTarget before given after) :
    plan.target.Traces before (given.mapError (plan.targetStage.failure plan input output))
      [plan.targetEntry given] [] after := by
  unfold LoadsTarget at targeted
  unfold Plan.target targetStage targetEntry
  cases srgb : plan.srgb with
  | none =>
    rw [srgb] at targeted
    exact .ask .openTarget .builtinProfile targeted rfl
  | some path =>
    rw [srgb] at targeted
    exact (profileAt_traces .openTarget targeted).convertingFaults

theorem load_traces {image : lib.Image} {given : Except Fault Unit} (path : Path)
    (answered : Answered (lib.load image) before given after) :
    (Run.convertingFaults Kind.isDecoding (.undecodable path)
      (Run.ask (.load image) (lib.load image))).Traces before
        (given.mapError (Failure.ofFault Kind.isDecoding (.undecodable path)))
        [⟨.decode, .load image, given⟩] [] after :=
  (Run.Traces.ask .decode (.load image) answered rfl).convertingFaults

section Steps
variable {image : lib.Image} {record : List (Entry lib)} {warning : Option Notice}

theorem ChoosesBy.triesEmbedded {given : Except Fault Intent}
    (chosen : plan.ChoosesBy .embedded source record given warning) :
    ∀ entry ∈ record, entry.step.triesEmbedded = true := by
  cases chosen <;> simp [Step.triesEmbedded]

theorem PaintsBy.triesEmbedded {given : Except Fault lib.Image}
    (painted : PaintsBy .embedded image source target intent record given) :
    ∀ entry ∈ record, entry.step.triesEmbedded = true := by
  cases painted <;> simp [Step.triesEmbedded]

theorem TriesBy.triesEmbedded {given : Except Fault (lib.Image × Intent)}
    (tried : plan.TriesBy .embedded image source target record given warning) :
    ∀ entry ∈ record, entry.step.triesEmbedded = true := by
  cases tried with
  | unchosen chosen => exact chosen.triesEmbedded
  | unpainted chosen painted | painted chosen painted =>
    exact List.forall_mem_append.mpr ⟨chosen.triesEmbedded, painted.triesEmbedded⟩

theorem TriesOwnBy.triesEmbedded {bytes : lib.Blob} {given : Except Fault (lib.Image × Intent)}
    (tried : plan.TriesOwnBy image bytes target record given warning) :
    ∀ entry ∈ record, entry.step.triesEmbedded = true := by
  cases tried with
  | unparsed => simp [Step.triesEmbedded]
  | parsed tried => exact List.forall_mem_cons.mpr ⟨rfl, tried.triesEmbedded⟩

end Steps

end InkToScreen.Plan
