import InkToScreen.Proofs.Conversion.Dialogue

/-! The steps of a conversion. Each call of the library belongs to a step, the steps have an order,
and a step is due once the calls that it depends on have been answered. -/
namespace InkToScreen
variable {lib : Library}

/-- The calls of a conversion, each by what it is for. -/
inductive Step where
  | openInput
  | decode
  | openTarget
  | parse
  | queryIntent (role : Role)
  | queryDefault (role : Role)
  | build (role : Role)
  | apply (role : Role)
  | openBackstop
  | readTarget
  | encode
  | closeResult
  | closeInput
deriving DecidableEq, Repr

namespace Step

/-- Where a step stands: the attempt with the picture's own profile comes first, and the backstop
profile is opened between the two attempts. -/
def rank : Step → Nat
  | openInput => 0
  | decode => 1
  | openTarget => 2
  | parse => 3
  | queryIntent .embedded => 4
  | queryDefault .embedded => 5
  | build .embedded => 6
  | apply .embedded => 7
  | openBackstop => 8
  | queryIntent .backstop => 9
  | queryDefault .backstop => 10
  | build .backstop => 11
  | apply .backstop => 12
  | readTarget => 13
  | encode => 14
  | closeResult => 15
  | closeInput => 16

theorem rank_le_closeInput (step : Step) : step.rank ≤ closeInput.rank := by
  unfold rank
  split <;> decide

/-- The steps of the attempt with the picture's own profile. -/
def triesEmbedded : Step → Bool
  | parse | queryIntent .embedded | queryDefault .embedded | build .embedded | apply .embedded =>
    true
  | _ => false

theorem rank_queryIntent_lt (role : Role) : (queryIntent role).rank < (queryDefault role).rank := by
  cases role <;> decide

theorem rank_queryDefault_lt (role : Role) : (queryDefault role).rank < (build role).rank := by
  cases role <;> decide

theorem rank_build_lt (role : Role) : (build role).rank < (apply role).rank := by
  cases role <;> decide

end Step

/-- A call of a conversion with its step and the reply to it. -/
structure Entry (lib : Library) where
  step : Step
  call : Call lib
  reply : Except Fault call.Reply

def Entry.exchange (entry : Entry lib) : Exchange lib :=
  ⟨entry.call, entry.reply⟩

section Record

/-- A call at a step has been answered with a value. -/
def Heard (record : List (Entry lib)) (step : Step) (call : Call lib) (value : call.Reply) : Prop :=
  ⟨step, call, .ok value⟩ ∈ record

/-- There is a profile of the screen. -/
inductive Targets (record : List (Entry lib)) : lib.Profile → Prop
  | made (heard : Heard record .openTarget .builtinProfile target) : Targets record target
  | opened (heard : Heard record .openTarget (.openProfile path) target) : Targets record target

/-- There is a source profile. -/
inductive Sources (record : List (Entry lib)) : Role → lib.Profile → Prop
  | parsed (heard : Heard record .parse (.parseProfile bytes) source) :
      Sources record .embedded source
  | opened (heard : Heard record .openBackstop (.openProfile path) source) :
      Sources record .backstop source

/-- It is known which intent to use with a source profile. -/
inductive Settled (plan : Plan) (record : List (Entry lib)) (role : Role) (source : lib.Profile) :
    Intent → Prop
  | wanted
      (heard : Heard record (.queryIntent role) (.supportsIntent source plan.intent) (1 : Int)) :
      Settled plan record role source plan.intent
  | fallback {intent : Intent}
      (heard : Heard record (.queryDefault role) (.defaultIntent source) (intent.number : Int)) :
      Settled plan record role source intent

/-- A picture has been made in screen colours. -/
inductive Painted (record : List (Entry lib)) : lib.Image → Prop
  | intro {role : Role}
      (heard : Heard record (.apply role) (.applyTransform image transform) (some result)) :
      Painted record result

/-- The attempt with the picture's own profile has failed in a way that a profile can cause. -/
inductive Spoilt (record : List (Entry lib)) : Prop
  | fault {step : Step} (met : ⟨step, call, .error cause⟩ ∈ record)
      (tried : step.triesEmbedded = true) (absorbed : cause.kind.isProfile = true) :
      Spoilt record
  | unknownIntent
      (heard : Heard record (.queryDefault .embedded) (.defaultIntent source) number)
      (unknown : ∀ intent : Intent, number ≠ intent.number) :
      Spoilt record
  | noPicture
      (heard : Heard record (.apply .embedded) (.applyTransform image transform) none) :
      Spoilt record

/-- A step is due: the calls that it depends on have been answered, and its own call is made with
what they were answered with. -/
inductive Converter.Due (converter : Converter) (input : Path) (earlier : List (Entry lib)) :
    Step → Call lib → Prop
  | openInput : Due converter input earlier .openInput (.openImage input)
  | decode (opened : Heard earlier .openInput (.openImage input) image)
      (inks : (lib.header image).mode = "CMYK") :
      Due converter input earlier .decode (.load image)
  | makeTarget (decoded : Heard earlier .decode (.load image) ())
      (builtin : converter.plan.srgb = none) :
      Due converter input earlier .openTarget .builtinProfile
  | openTarget (decoded : Heard earlier .decode (.load image) ())
      (given : converter.plan.srgb = some path) :
      Due converter input earlier .openTarget (.openProfile path)
  | parse (prepared : Targets earlier target)
      (opened : Heard earlier .openInput (.openImage input) image)
      (carried : (lib.header image).icc = some bytes) (filled : lib.isEmpty bytes = false) :
      Due converter input earlier .parse (.parseProfile bytes)
  | queryIntent {role : Role} (known : Sources earlier role source) :
      Due converter input earlier (.queryIntent role) (.supportsIntent source converter.plan.intent)
  | queryDefault {role : Role}
      (heard : Heard earlier (.queryIntent role) (.supportsIntent source converter.plan.intent)
        answer)
      (other : answer ≠ 1) :
      Due converter input earlier (.queryDefault role) (.defaultIntent source)
  | build {role : Role} {intent : Intent} (prepared : Targets earlier target)
      (settled : Settled converter.plan earlier role source intent) :
      Due converter input earlier (.build role) (.buildTransform source target .toScreen intent)
  | apply {role : Role} {intent : Intent}
      (opened : Heard earlier .openInput (.openImage input) image)
      (built : Heard earlier (.build role) (.buildTransform source target .toScreen intent)
        transform) :
      Due converter input earlier (.apply role) (.applyTransform image transform)
  | openBackstopOfAbsent (prepared : Targets earlier target)
      (opened : Heard earlier .openInput (.openImage input) image)
      (absent : ∀ bytes, (lib.header image).icc = some bytes → lib.isEmpty bytes = true) :
      Due converter input earlier .openBackstop (.openProfile converter.plan.backstop)
  | openBackstopOfSpoilt (prepared : Targets earlier target) (spoilt : Spoilt earlier) :
      Due converter input earlier .openBackstop (.openProfile converter.plan.backstop)
  | readTarget (prepared : Targets earlier target) (painted : Painted earlier result) :
      Due converter input earlier .readTarget (.profileBytes target)
  | encode (opened : Heard earlier .openInput (.openImage input) image)
      (painted : Painted earlier result)
      (read : Heard earlier .readTarget (.profileBytes target) bytes) :
      Due converter input earlier .encode (.encode result
        (Jpeg.options converter.quality (some bytes) (lib.header image).exif) folder)
  | closeResult (painted : Painted earlier result) :
      Due converter input earlier .closeResult (.close .result result)
  | closeInput (opened : Heard earlier .openInput (.openImage input) image) :
      Due converter input earlier .closeInput (.close .input image)

/-- All steps of a record stand before a place. -/
def Below (record : List (Entry lib)) (rank : Nat) : Prop :=
  ∀ entry ∈ record, entry.step.rank < rank

/-- Entries that follow on a record: each is due by then and stands behind all that came before. -/
inductive Converter.Follows (converter : Converter) (input : Path) :
    List (Entry lib) → List (Entry lib) → Prop
  | done : Follows converter input earlier []
  | entry {entry : Entry lib} (due : converter.Due input earlier entry.step entry.call)
      (below : Below earlier entry.step.rank)
      (rest : Follows converter input (earlier ++ [entry]) more) :
      Follows converter input earlier (entry :: more)

end Record

section Growth
variable {earlier record more : List (Entry lib)} {role : Role} {source target : lib.Profile}
  {plan : Plan} {rank : Nat}

theorem Heard.append {step : Step} {call : Call lib} {value : call.Reply}
    (heard : Heard record step call value) : Heard (record ++ more) step call value :=
  List.mem_append_left more heard

theorem Targets.append (prepared : Targets record target) : Targets (record ++ more) target := by
  cases prepared with
  | made heard => exact .made heard.append
  | opened heard => exact .opened heard.append

theorem Painted.append {result : lib.Image} (painted : Painted record result) :
    Painted (record ++ more) result := by
  cases painted with
  | intro heard => exact .intro heard.append

theorem Below.nil (rank : Nat) : Below ([] : List (Entry lib)) rank :=
  fun _ member => absurd member List.not_mem_nil

theorem Below.mono {higher : Nat} (below : Below record rank) (more : rank ≤ higher) :
    Below record higher :=
  fun entry member => Nat.lt_of_lt_of_le (below entry member) more

theorem Below.append (first : Below record rank) (second : Below more rank) :
    Below (record ++ more) rank := by
  intro entry member
  rcases List.mem_append.mp member with inFirst | inSecond
  · exact first entry inFirst
  · exact second entry inSecond

theorem Below.right (below : Below (record ++ more) rank) : Below more rank :=
  fun entry member => below entry (List.mem_append_right record member)

/-- A step at the bound has not been taken. -/
theorem Below.not_mem {step : Step} (below : Below record step.rank) :
    step ∉ record.map Entry.step := by
  intro member
  obtain ⟨entry, taken, rfl⟩ := List.mem_map.mp member
  exact Nat.lt_irrefl _ (below entry taken)

/-- A step behind all others brings the bound up to its own place. -/
theorem Below.push {entry : Entry lib} (below : Below record entry.step.rank)
    (higher : entry.step.rank < rank) : Below (record ++ [entry]) rank := by
  refine (below.mono (Nat.le_of_lt higher)).append fun other member => ?_
  obtain rfl := List.mem_singleton.mp member
  exact higher

end Growth

namespace Converter
variable {converter : Converter} {input : Path} {earlier record more : List (Entry lib)}

theorem Follows.single {entry : Entry lib} (due : converter.Due input earlier entry.step entry.call)
    (below : Below earlier entry.step.rank) : converter.Follows input earlier [entry] :=
  .entry due below .done

theorem Follows.append (first : converter.Follows input earlier record)
    (second : converter.Follows input (earlier ++ record) more) :
    converter.Follows input earlier (record ++ more) := by
  induction first with
  | done => simpa using second
  | @entry earlier rest entry due below _ ih =>
    refine .entry due below (ih ?_)
    simpa using second

/-- Every entry of a record that follows on nothing is due after those before it. -/
theorem Follows.due_of_split (follows : converter.Follows input earlier record)
    {first last : List (Entry lib)} {entry : Entry lib} (split : record = first ++ entry :: last) :
    converter.Due input (earlier ++ first) entry.step entry.call := by
  induction follows generalizing first with
  | done => simp at split
  | @entry earlier rest here due below _ ih =>
    cases first with
    | nil =>
      obtain ⟨rfl, _⟩ := List.cons.inj split
      simpa using due
    | cons head tail =>
      obtain ⟨rfl, same⟩ := List.cons.inj split
      simpa using ih same

theorem Follows.due_of_mem (follows : converter.Follows input earlier record) {entry : Entry lib}
    (member : entry ∈ record) : ∃ sooner, converter.Due input sooner entry.step entry.call := by
  obtain ⟨first, last, split⟩ := List.append_of_mem member
  exact ⟨_, follows.due_of_split split⟩

/-- The steps of a record that follows stand one behind the other. -/
theorem Follows.pairwise (follows : converter.Follows input earlier record) :
    record.Pairwise (fun first second => first.step.rank < second.step.rank) ∧
      ∀ first ∈ earlier, ∀ second ∈ record, first.step.rank < second.step.rank := by
  induction follows with
  | done => simp
  | @entry earlier rest entry due below _ ih =>
    obtain ⟨ordered, behind⟩ := ih
    refine ⟨List.pairwise_cons.mpr ⟨fun other member => ?_, ordered⟩, fun first member => ?_⟩
    · exact behind entry (List.mem_append_right _ List.mem_cons_self) other member
    · intro second chosen
      rcases List.mem_cons.mp chosen with rfl | later
      · exact below first member
      · exact behind first (List.mem_append_left _ member) second later

end Converter
end InkToScreen
