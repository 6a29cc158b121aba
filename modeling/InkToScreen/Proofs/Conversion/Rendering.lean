import InkToScreen.Proofs.Conversion.Opening

/-! How a picture gets to screen colours, as derivations from the library's answers. A fault that a
profile can cause makes the backstop profile take the place of the picture's own. -/
namespace InkToScreen
variable {lib : Library}

/-- A picture made with a source profile, before the bytes of the target profile are read. -/
structure Rendering (lib : Library) where
  image : lib.Image
  source : ProfileSource
  intent : Intent
  target : lib.Profile
  warnings : List Notice

namespace Plan

/-- Which intent a source profile is used with, and the warning if it is not the wanted one. -/
inductive Chooses (plan : Plan) (role : Role) (source : lib.Profile) (before : World lib) :
    Except Fault Intent → List Notice → World lib → Prop
  | unqueried
      (asked : Answered (lib.supportsIntent source plan.intent) before (.error cause) after) :
      Chooses plan role source before (.error cause) [] after
  | wanted (asked : Answered (lib.supportsIntent source plan.intent) before (.ok 1) after) :
      Chooses plan role source before (.ok plan.intent) [] after
  | undefaulted
      (asked : Answered (lib.supportsIntent source plan.intent) before (.ok answer) between)
      (other : answer ≠ 1)
      (defaulted : Answered (lib.defaultIntent source) between (.error cause) after) :
      Chooses plan role source before (.error cause) [] after
  | unknown (asked : Answered (lib.supportsIntent source plan.intent) before (.ok answer) between)
      (other : answer ≠ 1)
      (defaulted : Answered (lib.defaultIntent source) between (.ok number) after)
      (unknown : ∀ intent : Intent, number ≠ intent.number) :
      Chooses plan role source before (.error (.unknownIntent number)) [] after
  | fallback {intent : Intent}
      (asked : Answered (lib.supportsIntent source plan.intent) before (.ok answer) between)
      (other : answer ≠ 1)
      (defaulted : Answered (lib.defaultIntent source) between (.ok (intent.number : Int)) after) :
      Chooses plan role source before (.ok intent) [.intentFallback plan.intent role intent] after

inductive Paints (image : lib.Image) (source target : lib.Profile) (intent : Intent)
    (before : World lib) : Except Fault lib.Image → World lib → Prop
  | unbuilt
      (built : Answered (lib.buildTransform source target .toScreen intent) before (.error cause)
        after) :
      Paints image source target intent before (.error cause) after
  | unapplied
      (built : Answered (lib.buildTransform source target .toScreen intent) before (.ok transform)
        between)
      (applied : Answered (lib.applyTransform image transform) between (.error cause) after) :
      Paints image source target intent before (.error cause) after
  | empty
      (built : Answered (lib.buildTransform source target .toScreen intent) before (.ok transform)
        between)
      (applied : Answered (lib.applyTransform image transform) between (.ok none) after) :
      Paints image source target intent before (.error .noPicture) after
  | painted
      (built : Answered (lib.buildTransform source target .toScreen intent) before (.ok transform)
        between)
      (applied : Answered (lib.applyTransform image transform) between (.ok (some result)) after) :
      Paints image source target intent before (.ok result) after

/-- What the attempt with a source profile comes to, and the warnings it gives on its way. -/
inductive Tries (plan : Plan) (role : Role) (image : lib.Image) (source target : lib.Profile)
    (before : World lib) : Except Fault (lib.Image × Intent) → List Notice → World lib → Prop
  | unchosen (chosen : plan.Chooses role source before (.error cause) [] after) :
      Tries plan role image source target before (.error cause) [] after
  | unpainted {intent : Intent}
      (chosen : plan.Chooses role source before (.ok intent) warnings between)
      (painted : Paints image source target intent between (.error cause) after) :
      Tries plan role image source target before (.error cause) warnings after
  | painted {intent : Intent}
      (chosen : plan.Chooses role source before (.ok intent) warnings between)
      (painted : Paints image source target intent between (.ok result) after) :
      Tries plan role image source target before (.ok (result, intent)) warnings after

/-- What the attempt with the picture's own profile comes to, which is read from its bytes. -/
inductive TriesEmbedded (plan : Plan) (image : lib.Image) (bytes : lib.Blob) (target : lib.Profile)
    (before : World lib) : Except Fault (lib.Image × Intent) → List Notice → World lib → Prop
  | unparsed (parsed : Answered (lib.parseProfile bytes) before (.error cause) after) :
      TriesEmbedded plan image bytes target before (.error cause) [] after
  | parsed (parsed : Answered (lib.parseProfile bytes) before (.ok source) between)
      (tried : plan.Tries .embedded image source target between given warnings after) :
      TriesEmbedded plan image bytes target before given warnings after

/-- What the backstop profile comes to, after some warnings. -/
inductive FallsBack (plan : Plan) (input : Input lib) (target : lib.Profile)
    (kind : ProfileSource) (earlier : List Notice) (before : World lib) :
    Except (Stage × Fault) (Rendering lib) → World lib → Prop
  | unopened
      (loaded : Answered (lib.openProfile plan.backstop (before.files.readable? plan.backstop))
        before (.error cause) after) :
      FallsBack plan input target kind earlier before (.error (.backstop, cause)) after
  | unrendered
      (loaded : Answered (lib.openProfile plan.backstop (before.files.readable? plan.backstop))
        before (.ok source) between)
      (tried : plan.Tries .backstop input.image source target between (.error cause) warnings
        after) :
      FallsBack plan input target kind earlier before (.error (.transform, cause)) after
  | rendered {intent : Intent}
      (loaded : Answered (lib.openProfile plan.backstop (before.files.readable? plan.backstop))
        before (.ok source) between)
      (tried : plan.Tries .backstop input.image source target between (.ok (image, intent)) warnings
        after) :
      FallsBack plan input target kind earlier before
        (.ok { image, source := kind, intent, target, warnings := earlier ++ warnings }) after

/-- The stage of making or opening the profile of the screen. -/
def targetStage (plan : Plan) : Stage :=
  match plan.srgb with
  | none => .builtinTarget
  | some path => .target path

/-- What making or opening the profile of the screen comes to. -/
def LoadsTarget (plan : Plan) (before : World lib) (given : Except Fault lib.Profile)
    (after : World lib) : Prop :=
  match plan.srgb with
  | none => Answered lib.builtinProfile before given after
  | some path => Answered (lib.openProfile path (before.files.readable? path)) before given after

/-- The pixels can be read and there is a profile of the screen. -/
def Prepares (plan : Plan) (image : lib.Image) (before : World lib) (target : lib.Profile)
    (after : World lib) : Prop :=
  ∃ decoded, Answered (lib.load image) before (.ok ()) decoded ∧
    plan.LoadsTarget decoded (.ok target) after

/-- What getting to screen colours comes to: a rendering, or a fault at a stage. -/
inductive Renders (plan : Plan) (input : Input lib) (before : World lib) :
    Except (Stage × Fault) (Rendering lib) → World lib → Prop
  | undecoded (decoded : Answered (lib.load input.image) before (.error cause) after) :
      Renders plan input before (.error (.decoding, cause)) after
  | untargeted (loaded : Answered (lib.load input.image) before (.ok ()) decoded)
      (targeted : plan.LoadsTarget decoded (.error cause) after) :
      Renders plan input before (.error (plan.targetStage, cause)) after
  | embedded {intent : Intent} {target : lib.Profile}
      (prepared : plan.Prepares input.image before target ready)
      (carried : input.profile = some bytes)
      (tried : plan.TriesEmbedded input.image bytes target ready (.ok (image, intent)) warnings
        after) :
      Renders plan input before
        (.ok { image, source := .embedded, intent, target, warnings }) after
  | interrupted {target : lib.Profile}
      (prepared : plan.Prepares input.image before target ready)
      (carried : input.profile = some bytes)
      (tried : plan.TriesEmbedded input.image bytes target ready (.error cause) warnings after)
      (unabsorbed : cause.kind.isProfile = false) :
      Renders plan input before (.error (.embedded, cause)) after
  | fallback {target : lib.Profile}
      (prepared : plan.Prepares input.image before target ready)
      (carried : input.profile = some bytes)
      (failed : plan.TriesEmbedded input.image bytes target ready (.error cause) warnings tried)
      (absorbed : cause.kind.isProfile = true)
      (fallen : plan.FallsBack input target .backstopEmbeddedUnusable
        (warnings ++ [.embeddedUnusable input.path cause]) tried given after) :
      Renders plan input before given after
  | unprofiled {target : lib.Profile}
      (prepared : plan.Prepares input.image before target ready)
      (absent : input.profile = none)
      (fallen : plan.FallsBack input target .backstopNoEmbedded [] ready given after) :
      Renders plan input before given after

/-- What a transform to screen colours comes to: a rendering with the bytes of its target. -/
inductive Transforms (plan : Plan) (input : Input lib) (before : World lib) :
    Except (Stage × Fault) (Transformed lib) → World lib → Prop
  | unrendered (rendered : plan.Renders input before (.error stopped) after) :
      Transforms plan input before (.error stopped) after
  | unread (rendered : plan.Renders input before (.ok made) between)
      (read : Answered (lib.profileBytes made.target) between (.error cause) after) :
      Transforms plan input before (.error (.profileBytes, cause)) after
  | transformed (rendered : plan.Renders input before (.ok made) between)
      (read : Answered (lib.profileBytes made.target) between (.ok profile) after) :
      Transforms plan input before
        (.ok { image := made.image, source := made.source, intent := made.intent, profile,
               warnings := made.warnings }) after

variable {plan : Plan} {role : Role} {source target : lib.Profile} {intent : Intent}
  {before between after : World lib} {warnings : List Notice}

section Total

theorem Chooses.total (plan : Plan) (role : Role) (source : lib.Profile) (before : World lib) :
    ∃ given warnings after, plan.Chooses role source before given warnings after := by
  obtain ⟨given, between, asked⟩ := Answered.total (lib.supportsIntent source plan.intent) before
  cases given with
  | error cause => exact ⟨_, _, _, .unqueried asked⟩
  | ok answer =>
    by_cases yes : answer = 1
    · subst answer
      exact ⟨_, _, _, .wanted asked⟩
    · obtain ⟨given, after, defaulted⟩ := Answered.total (lib.defaultIntent source) between
      cases given with
      | error cause => exact ⟨_, _, _, .undefaulted asked yes defaulted⟩
      | ok number =>
        by_cases known : ∃ intent : Intent, number = intent.number
        · obtain ⟨intent, rfl⟩ := known
          exact ⟨_, _, _, .fallback asked yes defaulted⟩
        · exact ⟨_, _, _, .unknown asked yes defaulted fun intent same => known ⟨intent, same⟩⟩

theorem Chooses.warnings_of_error {cause : Fault}
    (chosen : plan.Chooses role source before (.error cause) warnings after) : warnings = [] := by
  cases chosen <;> rfl

theorem Paints.total (image : lib.Image) (source target : lib.Profile) (intent : Intent)
    (before : World lib) : ∃ given after, Paints image source target intent before given after := by
  obtain ⟨given, between, built⟩ :=
    Answered.total (lib.buildTransform source target .toScreen intent) before
  cases given with
  | error cause => exact ⟨_, _, .unbuilt built⟩
  | ok transform =>
    obtain ⟨given, after, applied⟩ := Answered.total (lib.applyTransform image transform) between
    cases given with
    | error cause => exact ⟨_, _, .unapplied built applied⟩
    | ok result =>
      cases result with
      | none => exact ⟨_, _, .empty built applied⟩
      | some result => exact ⟨_, _, .painted built applied⟩

theorem Tries.total (plan : Plan) (role : Role) (image : lib.Image) (source target : lib.Profile)
    (before : World lib) :
    ∃ given warnings after, plan.Tries role image source target before given warnings after := by
  obtain ⟨given, warnings, between, chosen⟩ := Chooses.total plan role source before
  cases given with
  | error cause =>
    obtain rfl := chosen.warnings_of_error
    exact ⟨_, _, _, .unchosen chosen⟩
  | ok intent =>
    obtain ⟨given, after, painted⟩ := Paints.total image source target intent between
    cases given with
    | error cause => exact ⟨_, _, _, .unpainted chosen painted⟩
    | ok result => exact ⟨_, _, _, .painted chosen painted⟩

theorem TriesEmbedded.total (plan : Plan) (image : lib.Image) (bytes : lib.Blob)
    (target : lib.Profile) (before : World lib) :
    ∃ given warnings after, plan.TriesEmbedded image bytes target before given warnings after := by
  obtain ⟨given, between, parsed⟩ := Answered.total (lib.parseProfile bytes) before
  cases given with
  | error cause => exact ⟨_, _, _, .unparsed parsed⟩
  | ok source =>
    obtain ⟨given, warnings, after, tried⟩ :=
      Tries.total plan .embedded image source target between
    exact ⟨_, _, _, .parsed parsed tried⟩

theorem FallsBack.total (plan : Plan) (input : Input lib) (target : lib.Profile)
    (kind : ProfileSource) (earlier : List Notice) (before : World lib) :
    ∃ given after, plan.FallsBack input target kind earlier before given after := by
  obtain ⟨given, between, loaded⟩ := Answered.total
    (lib.openProfile plan.backstop (before.files.readable? plan.backstop)) before
  cases given with
  | error cause => exact ⟨_, _, .unopened loaded⟩
  | ok source =>
    obtain ⟨given, warnings, after, tried⟩ :=
      Tries.total plan .backstop input.image source target between
    cases given with
    | error cause => exact ⟨_, _, .unrendered loaded tried⟩
    | ok made => exact ⟨_, _, .rendered loaded tried⟩

theorem LoadsTarget.total (plan : Plan) (before : World lib) :
    ∃ given after, plan.LoadsTarget before given after := by
  unfold LoadsTarget
  cases plan.srgb with
  | none => exact Answered.total _ before
  | some path => exact Answered.total _ before

theorem Renders.total (plan : Plan) (input : Input lib) (before : World lib) :
    ∃ given after, plan.Renders input before given after := by
  obtain ⟨given, decoded, loaded⟩ := Answered.total (lib.load input.image) before
  cases given with
  | error cause => exact ⟨_, _, .undecoded loaded⟩
  | ok _ =>
    obtain ⟨given, ready, targeted⟩ := LoadsTarget.total plan decoded
    cases given with
    | error cause => exact ⟨_, _, .untargeted loaded targeted⟩
    | ok target =>
      have prepared : plan.Prepares input.image before target ready := ⟨decoded, loaded, targeted⟩
      cases carried : input.profile with
      | none =>
        obtain ⟨given, after, fallen⟩ :=
          FallsBack.total plan input target .backstopNoEmbedded [] ready
        exact ⟨_, _, .unprofiled prepared carried fallen⟩
      | some bytes =>
        obtain ⟨given, warnings, between, tried⟩ :=
          TriesEmbedded.total plan input.image bytes target ready
        cases given with
        | ok made => exact ⟨_, _, .embedded prepared carried tried⟩
        | error cause =>
          cases absorbed : cause.kind.isProfile with
          | false => exact ⟨_, _, .interrupted prepared carried tried absorbed⟩
          | true =>
            obtain ⟨given, after, fallen⟩ :=
              FallsBack.total plan input target .backstopEmbeddedUnusable
                (warnings ++ [.embeddedUnusable input.path cause]) between
            exact ⟨_, _, .fallback prepared carried tried absorbed fallen⟩

theorem Transforms.total (plan : Plan) (input : Input lib) (before : World lib) :
    ∃ given after, plan.Transforms input before given after := by
  obtain ⟨given, between, rendered⟩ := Renders.total plan input before
  cases given with
  | error stopped => exact ⟨_, _, .unrendered rendered⟩
  | ok made =>
    obtain ⟨given, after, read⟩ := Answered.total (lib.profileBytes made.target) between
    cases given with
    | error cause => exact ⟨_, _, .unread rendered read⟩
    | ok profile => exact ⟨_, _, .transformed rendered read⟩

end Total

section Stages
variable {input : Input lib} {stage : Stage} {cause : Fault}

theorem FallsBack.stops {kind : ProfileSource} {earlier : List Notice}
    (fallen : plan.FallsBack input target kind earlier before (.error (stage, cause)) after) :
    stage = .backstop ∨ stage = .transform := by
  cases fallen with
  | unopened loaded => exact .inl rfl
  | unrendered loaded tried => exact .inr rfl

/-- Where a rendering can stop. It stops at the picture's own profile only for a fault that no
profile can cause. -/
theorem Renders.stops (rendered : plan.Renders input before (.error (stage, cause)) after) :
    stage = .decoding ∨ stage = plan.targetStage ∨
      stage = .embedded ∧ cause.kind.isProfile = false ∨
        stage = .backstop ∨ stage = .transform := by
  cases rendered with
  | undecoded decoded => exact .inl rfl
  | untargeted loaded targeted => exact .inr (.inl rfl)
  | interrupted prepared carried tried unabsorbed => exact .inr (.inr (.inl ⟨rfl, unabsorbed⟩))
  | fallback prepared carried failed absorbed fallen => exact .inr (.inr (.inr fallen.stops))
  | unprofiled prepared absent fallen => exact .inr (.inr (.inr fallen.stops))

theorem targetStage_cases (plan : Plan) :
    plan.targetStage = .builtinTarget ∨ ∃ profile, plan.targetStage = .target profile := by
  unfold targetStage
  cases plan.srgb with
  | none => exact .inl rfl
  | some profile => exact .inr ⟨profile, rfl⟩

/-- A transform stops where its rendering does, or at the bytes of the profile of the screen. -/
theorem Transforms.stops
    (transformed : plan.Transforms input before (.error (stage, cause)) after) :
    (stage ≠ .placing ∧ stage ≠ .writing) ∧
      (stage = .embedded → cause.kind.isProfile = false) := by
  cases transformed with
  | unread rendered read => simp
  | unrendered rendered =>
    rcases rendered.stops with rfl | rfl | ⟨rfl, unabsorbed⟩ | rfl | rfl
    · simp
    · rcases plan.targetStage_cases with builtin | ⟨profile, given⟩
      · simp [builtin]
      · simp [given]
    · exact ⟨by simp, fun _ => unabsorbed⟩
    · simp
    · simp

end Stages

section Frame

theorem Chooses.sameSystem {given : Except Fault Intent}
    (chosen : plan.Chooses role source before given warnings after) : before.SameSystem after := by
  cases chosen with
  | unqueried asked | wanted asked => exact asked.sameSystem
  | undefaulted asked _ defaulted | unknown asked _ defaulted _ | fallback asked _ defaulted =>
    exact asked.sameSystem.trans defaulted.sameSystem

theorem Paints.sameSystem {image : lib.Image} {given : Except Fault lib.Image}
    (painted : Paints image source target intent before given after) :
    before.SameSystem after := by
  cases painted with
  | unbuilt built => exact built.sameSystem
  | unapplied built applied | empty built applied | painted built applied =>
    exact built.sameSystem.trans applied.sameSystem

theorem Tries.sameSystem {image : lib.Image} {given : Except Fault (lib.Image × Intent)}
    (tried : plan.Tries role image source target before given warnings after) :
    before.SameSystem after := by
  cases tried with
  | unchosen chosen => exact chosen.sameSystem
  | unpainted chosen painted | painted chosen painted =>
    exact chosen.sameSystem.trans painted.sameSystem

theorem TriesEmbedded.sameSystem {image : lib.Image} {bytes : lib.Blob}
    {given : Except Fault (lib.Image × Intent)}
    (tried : plan.TriesEmbedded image bytes target before given warnings after) :
    before.SameSystem after := by
  cases tried with
  | unparsed parsed => exact parsed.sameSystem
  | parsed parsed tried => exact parsed.sameSystem.trans tried.sameSystem

theorem FallsBack.sameSystem {input : Input lib} {kind : ProfileSource} {earlier : List Notice}
    {given : Except (Stage × Fault) (Rendering lib)}
    (fallen : plan.FallsBack input target kind earlier before given after) :
    before.SameSystem after := by
  cases fallen with
  | unopened loaded => exact loaded.sameSystem
  | unrendered loaded tried | rendered loaded tried =>
    exact loaded.sameSystem.trans tried.sameSystem

theorem LoadsTarget.sameSystem {given : Except Fault lib.Profile}
    (targeted : plan.LoadsTarget before given after) : before.SameSystem after := by
  unfold LoadsTarget at targeted
  split at targeted
  · exact targeted.sameSystem
  · exact targeted.sameSystem

theorem Prepares.sameSystem {image : lib.Image}
    (prepared : plan.Prepares image before target after) : before.SameSystem after := by
  obtain ⟨decoded, loaded, targeted⟩ := prepared
  exact loaded.sameSystem.trans targeted.sameSystem

theorem Renders.sameSystem {input : Input lib} {given : Except (Stage × Fault) (Rendering lib)}
    (rendered : plan.Renders input before given after) : before.SameSystem after := by
  cases rendered with
  | undecoded decoded => exact decoded.sameSystem
  | untargeted loaded targeted => exact loaded.sameSystem.trans targeted.sameSystem
  | embedded prepared _ tried | interrupted prepared _ tried _ =>
    exact prepared.sameSystem.trans tried.sameSystem
  | fallback prepared _ failed _ fallen =>
    exact (prepared.sameSystem.trans failed.sameSystem).trans fallen.sameSystem
  | unprofiled prepared _ fallen => exact prepared.sameSystem.trans fallen.sameSystem

/-- A transform to screen colours touches neither files nor mask. -/
theorem Transforms.sameSystem {input : Input lib}
    {given : Except (Stage × Fault) (Transformed lib)}
    (transformed : plan.Transforms input before given after) : before.SameSystem after := by
  cases transformed with
  | unrendered rendered => exact rendered.sameSystem
  | unread rendered read | transformed rendered read =>
    exact rendered.sameSystem.trans read.sameSystem

end Frame

end Plan
end InkToScreen
