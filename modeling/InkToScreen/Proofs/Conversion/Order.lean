import InkToScreen.Proofs.Conversion.StepsOfCourse

namespace InkToScreen.Converter
variable {lib : Library} {converter : Converter} {input : Path} {stem : String}
  {before between after : World lib} {verdict : Verdict lib}

/-- The output name is taken, and the input opens in process inks. -/
inductive Begins (converter : Converter) (input : Path) (stem : String) (begun : World lib) :
    Input lib → World lib → Prop
  | intro (accepted : converter.settings.Accepts stem)
      (opening : Input.Opens input begun (.ok picture) opened)
      (inks : (lib.header picture).mode = "CMYK") :
      Begins converter input stem begun (.ofImage input picture opened.files) opened

theorem Begins.unique {picture again : Input lib} {opened other : World lib}
    (one : converter.Begins input stem before picture opened)
    (two : converter.Begins input stem before again other) : picture = again ∧ opened = other := by
  cases one with
  | intro accepted opening inks =>
    cases two with
    | intro _ openingAgain _ =>
      obtain ⟨same, rfl⟩ := opening.unique_ok openingAgain
      obtain rfl := Except.ok.inj same
      exact ⟨rfl, rfl⟩

/-- The steps of a record show what a conversion has come to. -/
structure Explains (converter : Converter) (input : Path) (stem : String) (begun : World lib)
    (record : List (Entry lib)) : Prop where
  decodes : Step.decode ∈ record.map Entry.step ↔
    ∃ picture opened, converter.Begins input stem begun picture opened
  fallsBack : Step.openBackstop ∈ record.map Entry.step ↔ ∃ picture opened,
    converter.Begins input stem begun picture opened ∧ converter.plan.NeedsBackstop picture opened
  encodes : Step.encode ∈ record.map Entry.step ↔ ∃ picture opened result made,
    converter.Begins input stem begun picture opened ∧
      converter.plan.Transforms picture opened (.ok result) made ∧
        ∃ scratch, made.files.scratch (converter.output stem).parent = .ok scratch

/-- A record that only opens and closes the input shows that nothing has begun. -/
theorem Explains.of_idle {record : List (Entry lib)}
    (idle : ∀ entry ∈ record, entry.step = .openInput ∨ entry.step = .closeInput)
    (unbegun : ∀ picture opened, ¬ converter.Begins input stem before picture opened) :
    converter.Explains input stem before record := by
  have untaken {step : Step} (other : step ≠ .openInput ∧ step ≠ .closeInput) :
      step ∉ record.map Entry.step := by
    intro member
    obtain ⟨entry, taken, rfl⟩ := List.mem_map.mp member
    rcases idle entry taken with opens | closes
    · exact other.1 opens
    · exact other.2 closes
  refine ⟨iff_of_false (untaken (by simp)) ?_, iff_of_false (untaken (by simp)) ?_,
    iff_of_false (untaken (by simp)) ?_⟩
  · rintro ⟨picture, opened, begun⟩
    exact unbegun picture opened begun
  · rintro ⟨picture, opened, begun, _⟩
    exact unbegun picture opened begun
  · rintro ⟨picture, opened, _, _, begun, _⟩
    exact unbegun picture opened begun

/-- What the work on a picture shows is shown by the record from the opening to the closing. -/
theorem Explains.of_work {record : List (Entry lib)} {picture : Input lib} {opened : World lib}
    {first last : Entry lib} (begun : converter.Begins input stem before picture opened)
    (opens : first.step = .openInput) (closes : last.step = .closeInput)
    (decodes : Step.decode ∈ record.map Entry.step)
    (fallsBack : Step.openBackstop ∈ record.map Entry.step ↔
      converter.plan.NeedsBackstop picture opened)
    (encodes : Step.encode ∈ record.map Entry.step ↔
      ∃ result made, converter.plan.Transforms picture opened (.ok result) made ∧
        ∃ scratch, made.files.scratch (converter.output stem).parent = .ok scratch) :
    converter.Explains input stem before (first :: (record ++ [last])) := by
  have inner {step : Step} (other : step ≠ .openInput ∧ step ≠ .closeInput) :
      step ∈ (first :: (record ++ [last])).map Entry.step ↔ step ∈ record.map Entry.step := by
    simp only [List.map_append, List.mem_append, List.map_cons, List.map_nil, List.mem_cons,
      List.not_mem_nil, opens, closes, other.1, other.2, false_or, or_false]
  refine ⟨(inner (by simp)).trans ?_, (inner (by simp)).trans ?_, (inner (by simp)).trans ?_⟩
  · exact iff_of_true decodes ⟨picture, opened, begun⟩
  · refine fallsBack.trans ⟨fun needed => ⟨picture, opened, begun, needed⟩, ?_⟩
    rintro ⟨again, other, begunAgain, needed⟩
    obtain ⟨rfl, rfl⟩ := begun.unique begunAgain
    exact needed
  · refine encodes.trans ⟨?_, ?_⟩
    · rintro ⟨result, made, transformed, placed⟩
      exact ⟨picture, opened, result, made, begun, transformed, placed⟩
    · rintro ⟨again, other, result, made, begunAgain, transformed, placed⟩
      obtain ⟨rfl, rfl⟩ := begun.unique begunAgain
      exact ⟨result, made, transformed, placed⟩

/-- The entries from the opening of a picture to its closing. -/
theorem GoesOn.enclosed {record : List (Entry lib)} {image : lib.Image}
    {handles : List (Handle × lib.Image)}
    (goes : converter.GoesOn input [⟨.openInput, .openImage input, .ok image⟩] record
      Step.closeInput.rank handles) :
    converter.GoesOn input [] (⟨.openInput, .openImage input, .ok image⟩ ::
      (record ++ [⟨.closeInput, .close .input image, .ok ()⟩])) (Step.closeInput.rank + 1)
      ((.input, image) :: handles) := by
  have closes : converter.GoesOn input
      ([⟨.openInput, .openImage input, .ok image⟩] ++ record)
      [⟨.closeInput, .close .input image, .ok ()⟩] (Step.closeInput.rank + 1) [] :=
    .entry (.closeInput List.mem_cons_self) goes.below (Nat.lt_succ_self _)
  have whole := (opens_goesOn converter input image).append (goes.append closes)
  rwa [List.append_nil] at whole

/-- The record of a conversion: it goes on to the end, shows what the conversion has come to, and
closes what has been handed out, last first, unless the bytes of the target cannot be read. -/
structure Keeps (converter : Converter) (input : Path) (stem : String) (before : World lib)
    (verdict : Verdict lib) (record : List (Entry lib)) (handles : List (Handle × lib.Image)) :
    Prop where
  goesOn : converter.GoesOn input [] record (Step.closeInput.rank + 1) handles
  explains : converter.Explains input stem before record
  handed : handles.map Prod.fst <+: [.input, .result]
  closes : (∀ cause, verdict ≠ .stopped .profileBytes cause) →
    closed (record.map Entry.exchange) = handles.reverse

private theorem keeps_of_transforms {image : lib.Image}
    {given : Except (Stage × Fault) (Transformed lib)} (accepted : converter.settings.Accepts stem)
    (opening : Input.Opens input before (.ok image) between)
    (inks : (lib.header image).mode = "CMYK")
    (transformed : converter.plan.Transforms (.ofImage input image between.files) between given
      after)
    (outer : ∀ cause, given = .error (.profileBytes, cause) →
      verdict = .stopped .profileBytes cause) :
    ∃ record last handles, (converter.attempt input stem).Takes before record last ∧
      converter.Keeps input stem before verdict record handles := by
  obtain ⟨record, placed, last, produced, taken, fallsBack, scratches⟩ :=
    produce_takes stem transformed
  obtain ⟨drawn, goes, closes, encodes⟩ :=
    produced.goesOn List.mem_cons_self inks (opens_goesOn converter input image).below
  refine ⟨_, last, _, attempt_takes_of_inks accepted opening inks taken, goes.enclosed,
    .of_work (.intro accepted opening inks) rfl rfl produced.decode_mem fallsBack ?_, ?_,
    fun readable => ?_⟩
  · rw [encodes, Option.isSome_iff_exists]
    constructor
    · rintro ⟨scratch, isPlaced⟩
      obtain ⟨⟨result, rfl⟩, found⟩ := (scratches scratch).mp isPlaced
      exact ⟨result, after, transformed, scratch, found⟩
    · rintro ⟨result, made, again, scratch, found⟩
      obtain ⟨rfl, rfl⟩ := transformed.unique_ok again
      exact ⟨scratch, (scratches scratch).mpr ⟨⟨result, rfl⟩, found⟩⟩
  · cases drawn with
    | ok result => exact List.prefix_rfl
    | error stopped => exact List.prefix_append [_] [_]
  · have kept := closes fun cause same => readable cause (outer cause same)
    rw [List.map_cons, List.map_append, ← List.singleton_append, closed_append, closed_append, kept]
    cases drawn with
    | ok result => rfl
    | error stopped => rfl

/-- A conversion makes the calls of its record. -/
theorem Course.takes (taken : converter.Course input stem before verdict after) :
    ∃ record last handles, (converter.attempt input stem).Takes before record last ∧
      converter.Keeps input stem before verdict record handles := by
  cases taken with
  | refused faulty =>
    refine ⟨[], before, [], attempt_takes_of_refused faulty,
      ⟨.done (.nil _), .of_idle (fun _ member => absurd member List.not_mem_nil) ?_,
        List.nil_prefix, fun _ => rfl⟩⟩
    rintro picture opened ⟨accepted, _, _⟩
    rw [stemError?_eq_none_iff.mpr accepted] at faulty
    cases faulty
  | @unopened cause _ accepted opening =>
    obtain ⟨record, taken, entries⟩ := attempt_takes_of_unopened accepted opening
    have unbegun : ∀ picture opened, ¬ converter.Begins input stem before picture opened := by
      rintro picture opened ⟨_, openingAgain, _⟩
      cases (opening.unique_ok openingAgain).1
    refine ⟨record, after, [], taken, ?_⟩
    rcases entries with rfl | rfl
    · exact ⟨.done (.nil _), .of_idle (by simp) unbegun, List.nil_prefix, fun _ => rfl⟩
    · exact ⟨.entry .openInput (.nil _) (by decide), .of_idle (by simp) unbegun, List.nil_prefix,
        fun _ => rfl⟩
  | spared accepted opening other =>
    refine ⟨_, _, _, attempt_takes_of_other accepted opening other,
      ⟨GoesOn.enclosed (.done ((opens_goesOn converter input _).below.mono (by decide))),
        .of_idle (by simp) ?_, List.prefix_append [_] [_], fun _ => rfl⟩⟩
    rintro picture opened ⟨_, openingAgain, inks⟩
    obtain ⟨same, rfl⟩ := opening.unique_ok openingAgain
    obtain rfl := Except.ok.inj same
    exact other inks
  | untransformed accepted opening inks transformed =>
    refine keeps_of_transforms accepted opening inks transformed ?_
    rintro cause ⟨⟩
    rfl
  | unstored accepted opening inks transformed | converted accepted opening inks transformed =>
    exact keeps_of_transforms accepted opening inks transformed nofun

/-- The calls of a conversion stand in one order, each is made with what has been answered by then,
and the pixels, the backstop profile and the encoder are called on only where they are needed. -/
theorem convert_follows_order (converter : Converter) (input stem : String)
    (before : World lib) :
    ∃ record after,
      (converter.convert input stem).Speaks before (record.map Entry.exchange) after ∧
      record.Pairwise (fun first second => first.step.rank < second.step.rank) ∧
      (∀ earlier entry later, record = earlier ++ entry :: later →
        converter.Due (.ofText input) earlier entry.step entry.call) ∧
      converter.Explains (.ofText input) stem before record := by
  obtain ⟨verdict, reached, course⟩ := Course.total converter (.ofText input) stem before
  obtain ⟨record, after, handles, taken, keeps⟩ := course.takes
  refine ⟨record, after, (convert_takes taken).speaks, keeps.goesOn.follows.pairwise.1, ?_,
    keeps.explains⟩
  intro earlier entry later split
  exact keeps.goesOn.follows.due_of_split split

end InkToScreen.Converter
