import Mathlib.Data.List.Infix
import InkToScreen.Proofs.Conversion.Accounts

namespace InkToScreen.Plan
variable {lib : Library} {plan : Plan} {path : Path} {image : lib.Image}
  {files : Files lib.Content}

/-- What the warnings of a result stand on: the exchanges of the two attempts, and what each attempt
warns of. -/
structure Grounds (lib : Library) where
  target : lib.Profile
  own : List (Exchange lib)
  opening : Option (Exchange lib)
  backstop : List (Exchange lib)
  ownFallback : Option Notice
  unusable : Option Fault
  backstopFallback : Option Notice

namespace Grounds

def exchanges (grounds : Grounds lib) (plan : Plan) (image : lib.Image)
    (result : Transformed lib) : List (Exchange lib) :=
  ⟨.load image, .ok ()⟩ :: plan.targeting grounds.target ::
    (grounds.own ++ (grounds.opening.toList ++ grounds.backstop ++
      [⟨.profileBytes grounds.target, .ok result.profile⟩]))

/-- The warnings in their order, three at most. -/
def warnings (grounds : Grounds lib) (path : Path) : List Notice :=
  grounds.ownFallback.toList ++ (grounds.unusable.map (.embeddedUnusable path)).toList ++
    grounds.backstopFallback.toList

/-- A result has the warnings that its attempts give ground for. An attempt that is not made gives
none. -/
structure Justify (grounds : Grounds lib) (plan : Plan) (path : Path) (image : lib.Image)
    (made : List (Exchange lib)) (result : Transformed lib) : Prop where
  exchanges : made = grounds.exchanges plan image result
  warnings : result.warnings = grounds.warnings path
  own : ∀ bytes, (lib.header image).icc = some bytes → lib.isEmpty bytes = false →
    plan.AttemptedOwn bytes grounds.target grounds.own grounds.ownFallback
  unprofiled : (∀ bytes, (lib.header image).icc = some bytes → lib.isEmpty bytes = true) →
    grounds.own = [] ∧ grounds.ownFallback = none
  backstop : result.source ≠ .embedded → ∃ source,
    grounds.opening = some ⟨.openProfile plan.backstop, .ok source⟩ ∧
      plan.Attempted .backstop source grounds.target grounds.backstop grounds.backstopFallback
  embedded : result.source = .embedded →
    grounds.opening = none ∧ grounds.backstop = [] ∧ grounds.backstopFallback = none
  unusable_iff : grounds.unusable.isSome = true ↔ result.source = .backstopEmbeddedUnusable

end Grounds

section Levels
variable {role : Role} {source target : lib.Profile} {made : List (Exchange lib)}
  {warning : Option Notice} {bytes : lib.Blob} {input : Input lib} {rendering : Rendering lib}
  {own backstop : List (Exchange lib)}

theorem Attempted.level_eq (attempted : plan.Attempted role source target made warning) :
    ∀ notice ∈ warning.toList, notice.level = .warning := by
  intro notice given
  obtain ⟨used, rfl, _⟩ := attempted.fallback notice (Option.mem_toList.mp given)
  rfl

theorem AttemptedOwn.level_eq (attempted : plan.AttemptedOwn bytes target made warning) :
    ∀ notice ∈ warning.toList, notice.level = .warning := by
  cases attempted with
  | unparsed => simp
  | parsed attempted => exact attempted.level_eq

theorem Accounts.level_eq (accounts : plan.Accounts input target own backstop rendering) :
    ∀ notice ∈ rendering.warnings, notice.level = .warning := by
  cases accounts with
  | embedded carried attempted makes | unprofiled absent attempted makes =>
    exact attempted.level_eq
  | fallback carried failed attempted makes =>
    intro notice given
    rcases List.mem_append.mp given with early | late
    · rcases List.mem_append.mp early with first | second
      · exact failed.level_eq notice first
      · obtain rfl := List.mem_singleton.mp second
        rfl
    · exact attempted.level_eq notice late

/-- The note that there is no profile to try is no warning, and all others are. -/
theorem Accounts.filter_notices (accounts : plan.Accounts input target own backstop rendering)
    (path : Path) :
    (rendering.notices path).filter (fun notice => notice.level = .warning) =
      rendering.warnings := by
  have kept : rendering.warnings.filter (fun notice => notice.level = .warning) =
      rendering.warnings :=
    List.filter_eq_self.mpr fun notice given => decide_eq_true (accounts.level_eq notice given)
  unfold Rendering.notices
  cases rendering.source with
  | embedded | backstopNoEmbedded | backstopEmbeddedUnusable => exact kept

end Levels

section Words

/-- A picture that is made with its own profile has no warning but that of another intent. -/
theorem Accounts.fallback_of_embedded {input : Input lib} {target : lib.Profile}
    {rendering : Rendering lib} {own backstop : List (Exchange lib)}
    (accounts : plan.Accounts input target own backstop rendering)
    (embedded : rendering.source = .embedded) :
    ∀ notice ∈ rendering.warnings,
      ∃ used : Intent, notice = .intentFallback plan.intent .embedded used := by
  cases accounts with
  | embedded carried attempted makes =>
    intro notice given
    obtain ⟨used, same, _⟩ := attempted.fallback notice (Option.mem_toList.mp given)
    exact ⟨used, same⟩
  | fallback | unprofiled => cases embedded

/-- What is said of the picture's own profile does not speak of the backstop. -/
theorem not_backstop_infix (wanted used : Intent) :
    ¬ "backstop".toList <:+: (Notice.intentFallback wanted .embedded used).message.toList := by
  have words : (Notice.intentFallback wanted .embedded used).message.toList =
      "Intent ".toList ++ wanted.name.toList ++ " not supported by ".toList ++
        Role.embedded.label.toList ++ "; falling back to default intent ".toList ++
          used.name.toList := by
    change ("Intent " ++ wanted.name ++ " not supported by " ++ Role.embedded.label ++
      "; falling back to default intent " ++ used.name).toList = _
    rw [String.toList_append, String.toList_append, String.toList_append, String.toList_append,
      String.toList_append]
  rw [words]
  cases wanted <;> cases used <;> decide +kernel

end Words

theorem Grounds.length_warnings_le (grounds : Grounds lib) (path : Path) :
    (grounds.warnings path).length ≤ 3 := by
  have first := grounds.ownFallback.length_toList_le
  have second := (grounds.unusable.map (Notice.embeddedUnusable path)).length_toList_le
  have third := grounds.backstopFallback.length_toList_le
  simp only [Grounds.warnings, List.length_append]
  omega

section Carried
variable {bytes : lib.Blob}

theorem icc_of_profile (carried : (Input.ofImage path image files).profile = some bytes)
    {other : lib.Blob} (carries : (lib.header image).icc = some other) : bytes = other :=
  Option.some.inj ((Input.profile_eq_some_iff.mp carried).1.symm.trans carries)

theorem not_unprofiled_of_profile
    (carried : (Input.ofImage path image files).profile = some bytes) :
    ¬ ∀ bytes, (lib.header image).icc = some bytes → lib.isEmpty bytes = true := by
  intro unprofiled
  cases carried.symm.trans (Input.profile_eq_none_iff.mpr unprofiled)

end Carried

/-- The attempts of a rendering give ground for the warnings of its result. -/
theorem Accounts.grounds {result : Transformed lib} {rendering : Rendering lib}
    {own backstop : List (Exchange lib)}
    (accounts : plan.Accounts (.ofImage path image files) rendering.target own backstop rendering)
    (same : result = { image := rendering.image, source := rendering.source
                       intent := rendering.intent, profile := result.profile
                       warnings := rendering.warnings }) :
    ∃ grounds : Grounds lib, grounds.Justify plan path image
      (⟨.load image, .ok ()⟩ :: plan.targeting rendering.target :: (own ++ (backstop ++
        [⟨.profileBytes rendering.target, .ok result.profile⟩]))) result := by
  generalize target : rendering.target = screen at accounts
  rw [same]
  cases accounts with
  | @embedded bytes source tries warning _ _ carried attempted makes =>
    refine ⟨⟨screen, _, none, [], warning, none, none⟩,
      { exchanges := rfl
        warnings := by simp [Grounds.warnings]
        own := ?_
        unprofiled := fun unprofiled => absurd unprofiled (not_unprofiled_of_profile carried)
        backstop := by simp
        embedded := by simp
        unusable_iff := by simp }⟩
    intro other carries _
    obtain rfl := icc_of_profile carried carries
    exact .parsed attempted
  | @fallback bytes own first source tries second image cause _ carried failed attempted makes =>
    refine ⟨⟨screen, own, some _, tries, first, some cause, second⟩,
      { exchanges := rfl
        warnings := rfl
        own := ?_
        unprofiled := fun unprofiled => absurd unprofiled (not_unprofiled_of_profile carried)
        backstop := fun _ => ⟨source, rfl, attempted⟩
        embedded := by simp
        unusable_iff := by simp }⟩
    intro other carries _
    obtain rfl := icc_of_profile carried carries
    exact failed
  | @unprofiled source tries warning image _ absent attempted makes =>
    refine ⟨⟨screen, [], some _, tries, none, none, warning⟩,
      { exchanges := rfl
        warnings := by simp [Grounds.warnings]
        own := ?_
        unprofiled := by simp
        backstop := fun _ => ⟨source, rfl, attempted⟩
        embedded := by simp
        unusable_iff := by simp }⟩
    intro bytes given filled
    cases absent.symm.trans (Input.profile_eq_some_iff.mpr ⟨given, filled⟩)

/-- Whenever a transform returns, the warnings in its result are those that were reported, in their
order, and the two attempts give ground for them. -/
theorem toSrgb_warns (plan : Plan) (path : Path) (image : lib.Image) (files : Files lib.Content)
    (before : World lib) {result : Transformed lib}
    (returned : (plan.toSrgb (.ofImage path image files) before).result = .ok result) :
    result.warnings = (plan.toSrgb (.ofImage path image files) before).notices.filter
        (fun notice => notice.level = .warning) ∧
      result.warnings.length ≤ 3 ∧
      (result.source = .embedded → ∀ notice ∈ result.warnings,
        ¬ "backstop".toList <:+: notice.message.toList) ∧
      ∃ (grounds : Grounds lib) (made : List (Exchange lib)) (after : World lib),
        (plan.toSrgb (.ofImage path image files)).Speaks before made after ∧
          grounds.Justify plan path image made result := by
  obtain ⟨record, notices, after, rendering, own, backstop, traces, recounts⟩ :=
    toSrgb_recounted returned
  obtain ⟨exchanges, given, accounts, same⟩ := recounts
  obtain ⟨grounds, justified⟩ := accounts.grounds same
  have warned : result.warnings = rendering.warnings := congrArg Transformed.warnings same
  have reported : result.warnings =
      (plan.toSrgb (.ofImage path image files) before).notices.filter
        (fun notice => notice.level = .warning) := by
    rw [traces.notices, given, warned]
    exact (accounts.filter_notices path).symm
  have few : result.warnings.length ≤ 3 := by
    rw [justified.warnings]
    exact grounds.length_warnings_le path
  refine ⟨reported, few, ?_, grounds, _, after, traces.speaks, exchanges ▸ justified⟩
  intro embedded notice given
  have used : rendering.source = .embedded :=
    (congrArg Transformed.source same).symm.trans embedded
  rw [warned] at given
  obtain ⟨intent, rfl⟩ := accounts.fallback_of_embedded used notice given
  exact not_backstop_infix plan.intent intent

end InkToScreen.Plan

namespace InkToScreen.Scripted

/-- Where the attempt with the picture's own profile fails late and the backstop takes its place,
all three warnings are given. -/
theorem toSrgb_warns_three_times :
    ∃ result, (reluctantRun reluctantWorld).result = .ok result ∧
      result.warnings = (reluctantRun reluctantWorld).notices.filter
        (fun notice => notice.level = .warning) ∧
      result.warnings.length = 3 ∧
      ∃ (grounds : Plan.Grounds library) (made : List (Exchange library)) (after : World library),
        reluctantRun.Speaks reluctantWorld made after ∧
          grounds.Justify converter.plan (.ofText "in.tif") bearer made result := by
  have ended : (reluctantRun reluctantWorld).result.map
      (fun result => result.warnings.length) = .ok 3 := by
    decide +kernel
  obtain ⟨result, returned, three⟩ := map_eq_ok_iff.mp ended
  obtain ⟨reported, _, _, justified⟩ := @Plan.toSrgb_warns library converter.plan
    (.ofText "in.tif") bearer reluctantWorld.files reluctantWorld result returned
  exact ⟨result, returned, reported, three, justified⟩

end InkToScreen.Scripted
