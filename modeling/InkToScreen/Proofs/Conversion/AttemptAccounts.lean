import Mathlib.Data.List.Basic
import InkToScreen.Proofs.Conversion.RenderingTranscripts

namespace InkToScreen
variable {lib : Library}

/-- A call that makes a picture for a profile of the screen with a source profile. -/
inductive Call.Draws (source target : lib.Profile) : Call lib → Prop
  | build {intent : Intent} : Draws source target (.buildTransform source target .toScreen intent)
  | apply : Draws source target (.applyTransform image transform)

/-- A call of an attempt with a source profile, which is asked about its intents first. -/
inductive Call.Attempts (source target : lib.Profile) : Call lib → Prop
  | supports {intent : Intent} : Attempts source target (.supportsIntent source intent)
  | default : Attempts source target (.defaultIntent source)
  | draws (drawing : Call.Draws source target call) : Attempts source target call

namespace Plan

/-- A source profile does not have the wanted intent, and the number that it names instead is that
of an intent. -/
def LacksIntent (plan : Plan) (source : lib.Profile) (made : List (Exchange lib)) : Prop :=
  ∃ answer number : Int, ⟨.supportsIntent source plan.intent, .ok answer⟩ ∈ made ∧ answer ≠ 1 ∧
    ⟨.defaultIntent source, .ok number⟩ ∈ made ∧ 0 ≤ number ∧ number ≤ 3

/-- The exchanges of an attempt with a source profile, and the one warning that it may give. -/
structure Attempted (plan : Plan) (role : Role) (source target : lib.Profile)
    (made : List (Exchange lib)) (warning : Option Notice) : Prop where
  calls : ∀ exchange ∈ made, exchange.call.Attempts source target
  fallback : ∀ notice ∈ warning, ∃ used : Intent,
    notice = .intentFallback plan.intent role used ∧
      ⟨.defaultIntent source, .ok (used.number : Int)⟩ ∈ made
  given_iff : warning.isSome = true ↔ plan.LacksIntent source made

/-- The exchanges of the attempt with the picture's own profile, which is read from its bytes. -/
inductive AttemptedOwn (plan : Plan) (bytes : lib.Blob) (target : lib.Profile) :
    List (Exchange lib) → Option Notice → Prop
  | unparsed {cause : Fault} :
      AttemptedOwn plan bytes target [⟨.parseProfile bytes, .error cause⟩] none
  | parsed (attempted : plan.Attempted .embedded source target tries warning) :
      AttemptedOwn plan bytes target (⟨.parseProfile bytes, .ok source⟩ :: tries) warning

/-- What a source profile answers about its intents, and the intent that it is used with. -/
inductive Asks (plan : Plan) (source : lib.Profile) : List (Exchange lib) → Intent → Prop
  | wanted : Asks plan source [⟨.supportsIntent source plan.intent, .ok (1 : Int)⟩] plan.intent
  | fallback {answer : Int} {intent : Intent} (other : answer ≠ 1) :
      Asks plan source [⟨.supportsIntent source plan.intent, .ok answer⟩,
        ⟨.defaultIntent source, .ok (intent.number : Int)⟩] intent

/-- The exchanges of an attempt that makes a picture. -/
inductive Makes (plan : Plan) (image : lib.Image) (source target : lib.Profile) :
    List (Exchange lib) → lib.Image → Intent → Prop
  | intro {intent : Intent} (asked : plan.Asks source queries intent) :
      Makes plan image source target
        (queries ++ [⟨.buildTransform source target .toScreen intent, .ok transform⟩,
          ⟨.applyTransform image transform, .ok (some result)⟩]) result intent

variable {plan : Plan} {role : Role} {source target : lib.Profile} {intent : Intent}
  {made more : List (Exchange lib)} {record : List (Entry lib)} {warning : Option Notice}

/-- The numbers of intents are those from zero to three. -/
theorem exists_intent_iff {number : Int} :
    (∃ intent : Intent, number = intent.number) ↔ 0 ≤ number ∧ number ≤ 3 := by
  constructor
  · rintro ⟨intent, rfl⟩
    cases intent <;> decide
  · rintro ⟨lower, upper⟩
    have cases : number = 0 ∨ number = 1 ∨ number = 2 ∨ number = 3 := by omega
    rcases cases with rfl | rfl | rfl | rfl
    · exact ⟨.perceptual, rfl⟩
    · exact ⟨.relative, rfl⟩
    · exact ⟨.saturation, rfl⟩
    · exact ⟨.absolute, rfl⟩

section Padding

/-- Making the picture does not tell whether a profile lacks an intent. -/
theorem lacksIntent_append_iff
    (drawn : ∀ exchange ∈ more, exchange.call.Draws source target) :
    plan.LacksIntent source (made ++ more) ↔ plan.LacksIntent source made := by
  have early {exchange : Exchange lib} (member : exchange ∈ made ++ more)
      (query : ¬ exchange.call.Draws source target) : exchange ∈ made := by
    rcases List.mem_append.mp member with first | second
    · exact first
    · exact absurd (drawn exchange second) query
  constructor
  · rintro ⟨answer, number, asked, other, defaulted, bounds⟩
    exact ⟨answer, number, early asked nofun, other, early defaulted nofun, bounds⟩
  · rintro ⟨answer, number, asked, other, defaulted, bounds⟩
    exact ⟨answer, number, List.mem_append_left _ asked, other, List.mem_append_left _ defaulted,
      bounds⟩

theorem Attempted.append (attempted : plan.Attempted role source target made warning)
    (drawn : ∀ exchange ∈ more, exchange.call.Draws source target) :
    plan.Attempted role source target (made ++ more) warning where
  calls := by
    intro exchange member
    rcases List.mem_append.mp member with first | second
    · exact attempted.calls exchange first
    · exact .draws (drawn exchange second)
  fallback := by
    intro notice given
    obtain ⟨used, same, defaulted⟩ := attempted.fallback notice given
    exact ⟨used, same, List.mem_append_left _ defaulted⟩
  given_iff := attempted.given_iff.trans (lacksIntent_append_iff drawn).symm

end Padding

section Transcripts

/-- A profile that has not been asked twice is not known to lack the wanted intent. -/
private theorem attempted_of_one {reply : Except Fault Int} :
    plan.Attempted role source target [⟨.supportsIntent source plan.intent, reply⟩] none where
  calls := by
    intro exchange member
    obtain rfl := List.mem_singleton.mp member
    exact .supports
  fallback := by simp
  given_iff := by simp [LacksIntent]

private theorem attempted_of_two (answer : Int) (reply : Except Fault Int)
    (useless : ∀ intent : Intent, reply ≠ .ok (intent.number : Int)) :
    plan.Attempted role source target [⟨.supportsIntent source plan.intent, .ok answer⟩,
      ⟨.defaultIntent source, reply⟩] none where
  calls := by
    intro exchange member
    rcases List.mem_pair.mp member with rfl | rfl
    · exact .supports
    · exact .default
  fallback := by simp
  given_iff := by
    refine iff_of_false (by simp) ?_
    rintro ⟨_, number, _, _, defaulted, bounds⟩
    obtain ⟨intent, rfl⟩ := exists_intent_iff.mpr bounds
    rcases List.mem_pair.mp defaulted with impossible | same
    · cases impossible
    · cases same
      exact useless intent rfl

private theorem attempted_of_fallback {answer : Int} (other : answer ≠ 1) :
    plan.Attempted role source target [⟨.supportsIntent source plan.intent, .ok answer⟩,
      ⟨.defaultIntent source, .ok (intent.number : Int)⟩]
      (some (.intentFallback plan.intent role intent)) where
  calls := by
    intro exchange member
    rcases List.mem_pair.mp member with rfl | rfl
    · exact .supports
    · exact .default
  fallback := by
    rintro _ ⟨⟩
    exact ⟨intent, rfl, List.mem_pair.mpr (.inr rfl)⟩
  given_iff := by
    refine iff_of_true rfl ⟨answer, intent.number, ?_, other, ?_, ?_⟩
    · exact List.mem_pair.mpr (.inl rfl)
    · exact List.mem_pair.mpr (.inr rfl)
    · exact exists_intent_iff.mp ⟨intent, rfl⟩

/-- The calls about the intents of a source profile account for the warning. -/
theorem ChoosesBy.attempted {given : Except Fault Intent} (target : lib.Profile)
    (chosen : plan.ChoosesBy role source record given warning) :
    plan.Attempted role source target (record.map Entry.exchange) warning := by
  cases chosen with
  | unqueried | wanted => exact attempted_of_one
  | @undefaulted answer cause other => exact attempted_of_two answer (.error cause) nofun
  | @unknown answer number other unknown =>
    exact attempted_of_two answer (.ok number) fun intent same =>
      unknown intent (Except.ok.inj same)
  | fallback other => exact attempted_of_fallback other

theorem ChoosesBy.asks (chosen : plan.ChoosesBy role source record (.ok intent) warning) :
    plan.Asks source (record.map Entry.exchange) intent := by
  cases chosen with
  | wanted => exact .wanted
  | fallback other => exact .fallback other

variable {image : lib.Image}

theorem PaintsBy.draws {given : Except Fault lib.Image}
    (painted : PaintsBy role image source target intent record given) :
    ∀ exchange ∈ record.map Entry.exchange, exchange.call.Draws source target := by
  have drawn {transform : lib.Transform} {reply : Except Fault (Option lib.Image)}
      (exchange : Exchange lib)
      (member : exchange ∈ [⟨.buildTransform source target .toScreen intent, .ok transform⟩,
        ⟨.applyTransform image transform, reply⟩]) : exchange.call.Draws source target := by
    rcases List.mem_pair.mp member with rfl | rfl
    · exact .build
    · exact .apply
  cases painted with
  | unbuilt =>
    intro exchange member
    obtain rfl := List.mem_singleton.mp member
    exact .build
  | unapplied | empty | painted => exact drawn

/-- The calls of an attempt account for the warning that it gives. -/
theorem TriesBy.attempted {given : Except Fault (lib.Image × Intent)}
    (tried : plan.TriesBy role image source target record given warning) :
    plan.Attempted role source target (record.map Entry.exchange) warning := by
  cases tried with
  | unchosen chosen => exact chosen.attempted target
  | unpainted chosen painted | painted chosen painted =>
    rw [List.map_append]
    exact (chosen.attempted target).append painted.draws

theorem TriesBy.makes {result : lib.Image}
    (tried : plan.TriesBy role image source target record (.ok (result, intent)) warning) :
    plan.Makes image source target (record.map Entry.exchange) result intent := by
  cases tried with
  | painted chosen painted =>
    cases painted with
    | painted =>
      rw [List.map_append]
      exact .intro chosen.asks

theorem TriesOwnBy.attemptedOwn {bytes : lib.Blob} {given : Except Fault (lib.Image × Intent)}
    (tried : plan.TriesOwnBy image bytes target record given warning) :
    plan.AttemptedOwn bytes target (record.map Entry.exchange) warning := by
  cases tried with
  | unparsed => exact .unparsed
  | parsed tried => exact .parsed tried.attempted

end Transcripts

end Plan
end InkToScreen
