import InkToScreen.Proofs.Answers
import InkToScreen.Proofs.Conversion.AttemptAccounts
import InkToScreen.Proofs.Conversion.Course

namespace InkToScreen
variable {lib : Library}

/-- The notices of a rendering: its warnings, after a note that there is no profile to try. -/
def Rendering.notices (path : Path) (made : Rendering lib) : List Notice :=
  match made.source with
  | .backstopNoEmbedded => .noEmbedded path :: made.warnings
  | _ => made.warnings

namespace Plan

/-- The profile of the screen is made, or opened where one is given. -/
def targeting (plan : Plan) (target : lib.Profile) : Exchange lib :=
  match plan.srgb with
  | none => ⟨.builtinProfile, .ok target⟩
  | some path => ⟨.openProfile path, .ok target⟩

/-- The exchanges of the two attempts of a rendering, and what they come to. -/
inductive Accounts (plan : Plan) (input : Input lib) (target : lib.Profile) :
    List (Exchange lib) → List (Exchange lib) → Rendering lib → Prop
  | embedded {intent : Intent} (carried : input.profile = some bytes)
      (attempted : plan.Attempted .embedded source target tries warning)
      (made : plan.Makes input.image source target tries image intent) :
      Accounts plan input target (⟨.parseProfile bytes, .ok source⟩ :: tries) []
        { image, source := .embedded, intent, target, warnings := warning.toList }
  | fallback {intent : Intent} (carried : input.profile = some bytes)
      (failed : plan.AttemptedOwn bytes target own first)
      (attempted : plan.Attempted .backstop source target tries second)
      (made : plan.Makes input.image source target tries image intent) :
      Accounts plan input target own (⟨.openProfile plan.backstop, .ok source⟩ :: tries)
        { image, source := .backstopEmbeddedUnusable, intent, target
          warnings := first.toList ++ [.embeddedUnusable input.path cause] ++ second.toList }
  | unprofiled {intent : Intent} (absent : input.profile = none)
      (attempted : plan.Attempted .backstop source target tries warning)
      (made : plan.Makes input.image source target tries image intent) :
      Accounts plan input target [] (⟨.openProfile plan.backstop, .ok source⟩ :: tries)
        { image, source := .backstopNoEmbedded, intent, target, warnings := warning.toList }

variable {plan : Plan} {input : Input lib} {source target : lib.Profile} {intent : Intent}

section Transcripts
variable {record : List (Entry lib)} {notices : List Notice}

theorem exchange_targetEntry (plan : Plan) (target : lib.Profile) :
    (plan.targetEntry (.ok target)).exchange = plan.targeting target := by
  unfold targetEntry targeting
  cases plan.srgb <;> rfl

theorem exchanges_preparing (plan : Plan) (image : lib.Image) (target : lib.Profile) :
    (plan.preparing image target).map Entry.exchange =
      [⟨.load image, .ok ()⟩, plan.targeting target] := by
  rw [← exchange_targetEntry]
  rfl

/-- The calls of a rendering that makes a picture are those of its two attempts, after the start. -/
theorem RendersBy.accounts {made : Rendering lib}
    (rendered : plan.RendersBy input record (.ok made) notices) :
    ∃ own backstop, record.map Entry.exchange =
        ⟨.load input.image, .ok ()⟩ :: plan.targeting made.target :: (own ++ backstop) ∧
      notices = made.notices input.path ∧
      plan.Accounts input made.target own backstop made := by
  cases rendered with
  | embedded carried tried =>
    cases tried with
    | parsed tried =>
      refine ⟨_, [], ?_, rfl, .embedded carried tried.attempted tried.makes⟩
      rw [List.map_append, exchanges_preparing, List.append_nil]
      rfl
  | fallback carried failed absorbed fallen =>
    cases fallen with
    | rendered tried =>
      refine ⟨_, _, ?_, ?_, .fallback carried failed.attemptedOwn tried.attempted tried.makes⟩
      · rw [List.map_append, exchanges_preparing, List.map_append]
        rfl
      · rw [List.append_assoc]
        rfl
  | unprofiled absent fallen =>
    cases fallen with
    | rendered tried =>
      refine ⟨[], _, ?_, rfl, .unprofiled absent tried.attempted tried.makes⟩
      rw [List.map_append, exchanges_preparing]
      rfl

/-- A transform with a result, told from its transcript: its last exchange gets the bytes of the
profile of the screen, and the result is what the attempts have made, with these bytes. -/
structure Recounts (plan : Plan) (input : Input lib) (exchanges : List (Exchange lib))
    (notices : List Notice) (result : Transformed lib) (made : Rendering lib)
    (own backstop : List (Exchange lib)) : Prop where
  exchanges : exchanges = ⟨.load input.image, .ok ()⟩ :: plan.targeting made.target ::
    (own ++ (backstop ++ [⟨.profileBytes made.target, .ok result.profile⟩]))
  notices : notices = made.notices input.path
  accounts : plan.Accounts input made.target own backstop made
  same : result = { image := made.image, source := made.source, intent := made.intent
                    profile := result.profile, warnings := made.warnings }

theorem TransformsBy.recounts {result : Transformed lib}
    (transformed : plan.TransformsBy input record (.ok result) notices) :
    ∃ (made : Rendering lib) (own backstop : List (Exchange lib)),
      plan.Recounts input (record.map Entry.exchange) notices result made own backstop := by
  cases transformed with
  | transformed rendered =>
    obtain ⟨own, backstop, exchanges, reported, accounts⟩ := rendered.accounts
    refine ⟨_, own, backstop, ?_, reported, accounts, rfl⟩
    rw [List.map_append, exchanges, List.cons_append, List.cons_append, List.append_assoc]
    rfl

/-- A transform that returns has a transcript that tells of it. -/
theorem toSrgb_recounted {path : Path} {image : lib.Image} {files : Files lib.Content}
    {before : World lib} {result : Transformed lib}
    (returned : (plan.toSrgb (.ofImage path image files) before).result = .ok result) :
    ∃ record notices after made own backstop,
      (plan.toSrgb (.ofImage path image files)).Traces before (.ok result) record notices after ∧
        plan.Recounts (.ofImage path image files) (record.map Entry.exchange) notices result made
          own backstop := by
  obtain ⟨given, after, transformed⟩ :=
    Transforms.total plan (.ofImage path image files) before
  obtain ⟨record, notices, transformedBy, _, traces⟩ := transformed.traces path
  cases given with
  | error stopped => cases traces.ends.1.symm.trans returned
  | ok other =>
    cases traces.ends.1.symm.trans returned
    obtain ⟨made, own, backstop, recounts⟩ := transformedBy.recounts
    exact ⟨record, notices, after, made, own, backstop, traces, recounts⟩

end Transcripts

/-- What a picture in screen colours was made with. -/
structure Making (lib : Library) where
  source : lib.Profile
  target : lib.Profile
  transform : lib.Transform
  failed : List (Exchange lib)
  opening : Exchange lib
  queries : List (Exchange lib)

namespace Making

/-- The exchanges of a transform: the profile of the screen comes first and its bytes come last. An
attempt that failed stands before the one that gave the picture. -/
def exchanges (making : Making lib) (plan : Plan) (image : lib.Image) (result : Transformed lib) :
    List (Exchange lib) :=
  ⟨.load image, .ok ()⟩ :: plan.targeting making.target :: (making.failed ++ making.opening ::
    (making.queries ++
      [⟨.buildTransform making.source making.target .toScreen result.intent, .ok making.transform⟩,
        ⟨.applyTransform image making.transform, .ok (some result.image)⟩,
        ⟨.profileBytes making.target, .ok result.profile⟩]))

/-- A result describes what was done, and nothing of an attempt that failed is left in it. -/
structure Explains (making : Making lib) (plan : Plan) (image : lib.Image)
    (made : List (Exchange lib)) (result : Transformed lib) : Prop where
  exchanges : made = making.exchanges plan image result
  failed : result.source = .backstopEmbeddedUnusable → ∃ bytes warning,
    (lib.header image).icc = some bytes ∧ lib.isEmpty bytes = false ∧
      plan.AttemptedOwn bytes making.target making.failed warning
  alone : result.source ≠ .backstopEmbeddedUnusable → making.failed = []
  embedded : result.source = .embedded → ∃ bytes, (lib.header image).icc = some bytes ∧
    lib.isEmpty bytes = false ∧ making.opening = ⟨.parseProfile bytes, .ok making.source⟩
  backstop : result.source ≠ .embedded →
    making.opening = ⟨.openProfile plan.backstop, .ok making.source⟩
  asked : plan.Asks making.source making.queries result.intent
  wanted_iff : result.intent = plan.intent ↔
    ⟨.supportsIntent making.source plan.intent, .ok (1 : Int)⟩ ∈ making.queries ∨
      ⟨.defaultIntent making.source, .ok (plan.intent.number : Int)⟩ ∈ making.queries
  default : result.intent ≠ plan.intent →
    ⟨.defaultIntent making.source, .ok (result.intent.number : Int)⟩ ∈ making.queries
  unprofiled_iff : result.source = .backstopNoEmbedded ↔
    ∀ bytes, (lib.header image).icc = some bytes → lib.isEmpty bytes = true

end Making

section Results

theorem Asks.wanted_iff {queries : List (Exchange lib)} (asked : plan.Asks source queries intent) :
    intent = plan.intent ↔ ⟨.supportsIntent source plan.intent, .ok (1 : Int)⟩ ∈ queries ∨
      ⟨.defaultIntent source, .ok (plan.intent.number : Int)⟩ ∈ queries := by
  cases asked with
  | wanted => simp
  | @fallback answer _ other =>
    constructor
    · rintro rfl
      simp
    · rintro (first | second)
      · have same : (1 : Int) = answer := by simpa using first
        exact absurd same.symm other
      · have same : (plan.intent.number : Int) = intent.number := by simpa using second
        exact (Intent.number_injective same).symm

theorem Asks.default {queries : List (Exchange lib)} (asked : plan.Asks source queries intent)
    (other : intent ≠ plan.intent) :
    ⟨.defaultIntent source, .ok (intent.number : Int)⟩ ∈ queries := by
  cases asked with
  | wanted => exact absurd rfl other
  | fallback unsupported => simp

variable {path : Path} {image : lib.Image} {files : Files lib.Content}

/-- The attempt that gave the picture, after one that failed or none, accounts for the result. -/
private theorem explains_of_makes {result : Transformed lib} {target : lib.Profile}
    {tries : List (Exchange lib)} (failed : List (Exchange lib)) (opening : Exchange lib)
    (earlier : result.source = .backstopEmbeddedUnusable → ∃ bytes warning,
      (lib.header image).icc = some bytes ∧ lib.isEmpty bytes = false ∧
        plan.AttemptedOwn bytes target failed warning)
    (alone : result.source ≠ .backstopEmbeddedUnusable → failed = [])
    (makes : plan.Makes image source target tries result.image result.intent)
    (embedded : result.source = .embedded → ∃ bytes, (lib.header image).icc = some bytes ∧
      lib.isEmpty bytes = false ∧ opening = ⟨.parseProfile bytes, .ok source⟩)
    (backstop : result.source ≠ .embedded → opening = ⟨.openProfile plan.backstop, .ok source⟩)
    (unprofiled : result.source = .backstopNoEmbedded ↔
      ∀ bytes, (lib.header image).icc = some bytes → lib.isEmpty bytes = true) :
    ∃ making : Making lib, making.Explains plan image
      (⟨.load image, .ok ()⟩ :: plan.targeting target :: (failed ++ (opening ::
        (tries ++ [⟨.profileBytes target, .ok result.profile⟩])))) result := by
  cases makes with
  | @intro queries _ transform _ asked =>
    exact ⟨⟨source, target, transform, failed, opening, queries⟩,
      { exchanges := by simp [Making.exchanges]
        failed := earlier
        alone := alone
        embedded := embedded
        backstop := backstop
        asked := asked
        wanted_iff := asked.wanted_iff
        default := asked.default
        unprofiled_iff := unprofiled }⟩

/-- Whenever a transform returns, its result describes what was done: which profile the picture was
made with and how, and whose bytes go with it. -/
theorem toSrgb_describes (plan : Plan) (path : Path) (image : lib.Image)
    (files : Files lib.Content) (before : World lib) {result : Transformed lib}
    (returned : (plan.toSrgb (.ofImage path image files) before).result = .ok result) :
    ∃ (making : Making lib) (made : List (Exchange lib)) (after : World lib),
      (plan.toSrgb (.ofImage path image files)).Speaks before made after ∧
        making.Explains plan image made result := by
  obtain ⟨record, notices, after, rendering, own, backstop, traces, recounts⟩ :=
    toSrgb_recounted returned
  obtain ⟨exchanges, _, accounts, same⟩ := recounts
  suffices explained : ∃ making : Making lib, making.Explains plan image
      (⟨.load image, .ok ()⟩ :: plan.targeting rendering.target :: (own ++ (backstop ++
        [⟨.profileBytes rendering.target, .ok result.profile⟩]))) result by
    obtain ⟨making, explains⟩ := explained
    refine ⟨making, _, after, traces.speaks, ?_⟩
    rw [exchanges]
    exact explains
  obtain ⟨picture, kind, intent, profile, warnings⟩ := result
  cases same
  generalize target : rendering.target = profile at accounts
  cases accounts with
  | embedded carried attempted makes =>
    obtain ⟨given, filled⟩ := Input.profile_eq_some_iff.mp carried
    refine explains_of_makes [] _ (by simp) (fun _ => rfl) makes
      (fun _ => ⟨_, given, filled, rfl⟩) (by simp) ?_
    simp [given, filled]
  | fallback carried failed attempted makes =>
    obtain ⟨given, filled⟩ := Input.profile_eq_some_iff.mp carried
    refine explains_of_makes _ _ (fun _ => ⟨_, _, given, filled, failed⟩) (by simp) makes (by simp)
      (fun _ => rfl) ?_
    simp [given, filled]
  | unprofiled absent attempted makes =>
    refine explains_of_makes [] _ (by simp) (fun _ => rfl) makes (by simp) (fun _ => rfl) ?_
    simpa using Input.profile_eq_none_iff.mp absent

end Results
end Plan

namespace Scripted

/-- A profile that lacks all intents, names one nevertheless, and cannot be applied. -/
def reluctant : Profile where
  name := "own"
  supported := []
  defaultIntent := 2
  applyFault := some (.reported .profile "cannot apply transform")

/-- A world that knows it, with a backstop profile that lacks all intents as well. -/
def reluctantWorld : World library :=
  world [("own.icc", .profile reluctant 64),
    ("backstop.icc", .profile { name := "ink", supported := [], defaultIntent := 3 } 64)]

/-- A picture that carries it. -/
def bearer : Image where
  mode := "CMYK"
  icc := some "own"

def reluctantRun : Run library (Transformed library) :=
  converter.plan.toSrgb (.ofImage (.ofText "in.tif") bearer reluctantWorld.files)

/-- Nothing of the attempt with the picture's own profile is left in what the backstop gives. -/
theorem toSrgb_describes_second_attempt :
    ∃ result, (reluctantRun reluctantWorld).result = .ok result ∧
      result.source = .backstopEmbeddedUnusable ∧ result.intent = .absolute ∧
      ∃ (making : Plan.Making library) (made : List (Exchange library)) (after : World library),
        reluctantRun.Speaks reluctantWorld made after ∧
          making.Explains converter.plan bearer made result := by
  have ended : (reluctantRun reluctantWorld).result.map
      (fun result => (result.source, result.intent)) =
        .ok (.backstopEmbeddedUnusable, .absolute) := by
    decide +kernel
  obtain ⟨result, returned, same⟩ := map_eq_ok_iff.mp ended
  exact ⟨result, returned, congrArg Prod.fst same, congrArg Prod.snd same,
    @Plan.toSrgb_describes library converter.plan (.ofText "in.tif") bearer reluctantWorld.files
      reluctantWorld result returned⟩

end Scripted
end InkToScreen
