import InkToScreen.Proofs.Conversion.Decision
import InkToScreen.Proofs.Conversion.Effect
import InkToScreen.Proofs.Conversion.StepsOfCourse
import InkToScreen.Proofs.Run.Agree

namespace InkToScreen
variable {lib : Library}

/-- A picture that its own profile takes to screen colours gets there whatever the backstop. -/
theorem Plan.toSrgb_agree_of_embedded {plan : Plan} {picture : Input lib} {made : Rendering lib}
    {before after : World lib} (rendered : plan.Renders picture before (.ok made) after)
    (own : made.source = .embedded) (path : Path) :
    Run.Agree Eq (plan.toSrgb picture) before ({ plan with backstop := path }.toSrgb picture)
      before := by
  cases rendered with
  | fallback _ _ _ _ fallen | unprofiled _ _ fallen =>
    rw [(Converter.source_of_fallsBack fallen).1] at own
    cases own
  | embedded prepared carried tried =>
    obtain ⟨decoded, loaded, targeted⟩ := prepared
    refine Run.agree_after (load_traces picture.path loaded).ends ?_
    refine Run.agree_after (targeted.traces picture.path picture.path).ends ?_
    simp only [carried]
    exact Run.agree_after tried.ends (Run.agree_refl _ _)

/-- Work on an open picture agrees as a whole if it agrees once the picture is open. -/
theorem Input.use_agree {α : Type} {path : Path} {image : lib.Image}
    {before between : World lib} {one two : Input lib → Run lib α}
    (opening : Input.Opens path before (.ok image) between)
    (worked : Run.Agree Eq (one (.ofImage path image between.files)) between
      (two (.ofImage path image between.files)) between) :
    Run.Agree Eq (Input.use path one) before (Input.use path two) before := by
  refine Run.agree_after opening.ends (Run.Agree.ensuring_close ?_ .input image)
  exact Run.agree_after (Run.ends_look between) (Run.agree_after (Run.ends_note _ between) worked)

theorem Input.use_agree_of_error {α : Type} {path : Path} {cause : Fault} {before after : World lib}
    (opening : Input.Opens path before (.error cause) after) (one two : Input lib → Run lib α) :
    Run.Agree Eq (Input.use path one) before (Input.use path two) before :=
  Run.agree_of_failed opening.ends

namespace Converter

/-- Two converters differ in no more than the paths of their backstop profiles. -/
inductive DifferInBackstop : Converter → Converter → Prop
  | intro (converter : Converter) (preset path : Path) :
    DifferInBackstop converter
      { settings := { converter.settings with backstop := preset }
        plan := { converter.plan with backstop := path }
        quality := converter.quality }

theorem DifferInBackstop.symm {first second : Converter} (differ : first.DifferInBackstop second) :
    second.DifferInBackstop first := by
  cases differ with
  | intro preset path => exact .intro _ first.settings.backstop first.plan.backstop

theorem DifferInBackstop.output {first second : Converter} (differ : first.DifferInBackstop second)
    (stem : String) : second.output stem = first.output stem := by
  cases differ
  rfl

theorem DifferInBackstop.srgb {first second : Converter} (differ : first.DifferInBackstop second) :
    second.plan.srgb = first.plan.srgb := by
  cases differ
  rfl

/-- Converters by settings that differ in the backstop profile only. -/
theorem ofSettings_differInBackstop (settings : Settings) (path : Path) (plan : Option Plan)
    (quality : Option Int) :
    (ofSettings settings plan quality).DifferInBackstop
      (ofSettings { settings with backstop := path } plan quality) := by
  cases plan with
  | none => exact .intro _ path path
  | some plan => exact .intro _ path plan.backstop

section Runs
variable {first second : Converter} {input : Path} {stem text : String}
  {before after : World lib}

/-- The attempt at a conversion with the picture's own profile is the same whatever the backstop. -/
theorem attempt_agree_of_embedded {result : Transformed lib}
    (taken : first.Course input stem before (.converted result) after)
    (own : result.source = .embedded) (differ : first.DifferInBackstop second) :
    Run.Agree Eq (first.attempt input stem) before (second.attempt input stem) before := by
  cases differ with
  | intro preset path =>
    cases taken with
    | @converted image between _ _ _ accepted opening inks transformed stored =>
      cases transformed with
      | transformed rendered read =>
        have accepts : stemError? first.settings stem = none := stemError?_eq_none_iff.mpr accepted
        have acceptsToo : stemError? { first.settings with backstop := preset } stem = none :=
          accepts
        unfold attempt
        simp only [accepts, acceptsToo]
        refine (Input.use_agree opening ?_).bind fun made _ _ _ same => same ▸ Run.agree_refl _ _
        unfold work
        simp only [isCmyk_ofImage.mpr inks, if_true]
        refine Run.Agree.bind ?_ fun _ _ _ _ same => same ▸ Run.agree_refl _ _
        refine (Plan.toSrgb_agree_of_embedded rendered own path).bind fun _ _ _ _ same => ?_
        exact same ▸ Run.agree_refl _ _

/-- The attempt at a conversion of a picture that is not in process inks needs no settings but the
room for a name. -/
theorem attempt_agree_of_other (room : first.settings.maxStemLength = second.settings.maxStemLength)
    (other : ∀ (image : lib.Image) after, Input.Opens input before (.ok image) after →
      (lib.header image).mode ≠ "CMYK") :
    Run.Agree Eq (first.attempt input stem) before (second.attempt input stem) before := by
  have sameError : stemError? second.settings stem = stemError? first.settings stem := by
    simp only [stemError?, room]
  unfold attempt
  rw [sameError]
  cases stemError? first.settings stem with
  | some error => exact Run.agree_refl _ _
  | none =>
    obtain ⟨given, after, opening⟩ := Input.Opens.total input before
    cases given with
    | error cause =>
      refine (Input.use_agree_of_error opening _ _).bind fun made reached elsewhere ended _ => ?_
      cases ((Input.use_ends_error opening).unique ended).1
    | ok image =>
      have plain (converter : Converter) : converter.work (converter.settings.outputName stem)
          (.ofImage input image after.files) =
            (Run.note (.notCmyk input (.ofMode (lib.header image).mode)) >>= fun _ =>
              pure none) := by
        unfold work
        rw [if_neg fun inks => other image after opening (isCmyk_ofImage.mp inks)]
        rfl
      have used : Run.Agree Eq (Input.use input (first.work (first.settings.outputName stem)))
          before (Input.use input (second.work (second.settings.outputName stem))) before := by
        refine Input.use_agree opening ?_
        rw [plain first, plain second]
        exact Run.agree_refl _ _
      have ended : (Input.use input (first.work (first.settings.outputName stem))).Ends before
          (.ok none) after := by
        refine Input.use_ends opening ?_
        rw [plain first]
        exact (Run.ends_note _ after).bind (Run.ends_pure none after)
      refine used.bind_ok ended ?_
      rintro _ rfl
      exact Run.agree_refl _ _

/-- A conversion does no more with the converter than its attempt does. -/
theorem convert_eq_of_attempt
    (agree : Run.Agree Eq (first.attempt (.ofText text) stem) before
      (second.attempt (.ofText text) stem) before) :
    first.convert text stem before = second.convert text stem before :=
  (agree.reify.bind fun _ _ _ _ same => same ▸ Run.agree_refl _ _).eq

/-- A conversion with the picture's own profile is the same whatever the backstop. -/
theorem convert_eq_of_usable (differ : first.DifferInBackstop second)
    (usable : (first.convert text stem before).result = .ok .cmykWithUsableIcc) :
    first.convert text stem before = second.convert text stem before := by
  obtain ⟨verdict, after, taken⟩ := Course.total first (.ofText text) stem before
  have returned : verdict.result = .ok ProfileSource.embedded.status :=
    taken.convert_ends.1.symm.trans usable
  obtain ⟨result, rfl, own⟩ := Verdict.converted_of_result returned
  exact convert_eq_of_attempt (attempt_agree_of_embedded taken own differ)

end Runs

/-- The backstop profile has no part in a conversion with the picture's own profile, and only the
room for a name has one in what becomes of a picture that is not in process inks. -/
theorem convert_ignores_unused (input stem : String) (before : World lib) :
    (∀ first second : Converter, first.DifferInBackstop second →
      (first.convert input stem before).result = .ok .cmykWithUsableIcc →
        first.convert input stem before = second.convert input stem before) ∧
    (∀ first second : Converter, first.settings.pathMax = second.settings.pathMax →
      first.settings.extension.utf8ByteSize = second.settings.extension.utf8ByteSize →
      (∀ (image : lib.Image) after, Input.Opens (.ofText input) before (.ok image) after →
        (lib.header image).mode ≠ "CMYK") →
      first.convert input stem before = second.convert input stem before ∧
      Input.Leaves (.ofText input) before (first.convert input stem before).world.files ∧
      ((∀ image, lib.isFleeting image = false) →
        (first.convert input stem before).world.files = before.files) ∧
      (first.settings.Accepts stem →
        ∀ image after, Input.Opens (.ofText input) before (.ok image) after →
          (first.convert input stem before).result = .ok .probablyNotCmyk ∧
          (first.convert input stem before).calls =
            [.openImage (.ofText input), .close .input image])) := by
  refine ⟨fun first second differ usable => convert_eq_of_usable differ usable, ?_⟩
  intro first second samePathMax sameLength other
  have room : first.settings.maxStemLength = second.settings.maxStemLength := by
    simp only [Settings.maxStemLength, samePathMax, sameLength]
  obtain ⟨verdict, after, taken⟩ := Course.total first (.ofText input) stem before
  have leaves : Input.Leaves (.ofText input) before
      (first.convert input stem before).world.files := by
    rw [taken.convert_ends.2]
    refine taken.leaves ?_
    rintro result rfl
    cases taken with
    | converted accepted opening inks => exact other _ _ opening inks
  refine ⟨convert_eq_of_attempt (attempt_agree_of_other room other), leaves,
    leaves.eq_of_lasting, ?_⟩
  intro accepted image opened opening
  have notInks := other image opened opening
  refine ⟨(Course.convert_ends (.spared accepted opening notInks)).1, ?_⟩
  exact (convert_takes (attempt_takes_of_other accepted opening notInks)).calls

end Converter

namespace Scripted

def gray : Image where
  mode := "L"

/-- A picture in process inks whose own profile can be used. -/
def profiled : Image where
  mode := "CMYK"
  icc := some "own"
  carried := some { name := "own" }

/-- A converter whose backstop profile is missing. -/
def backless : Converter :=
  .ofSettings .usual (some ⟨.ofText "nowhere.icc", none, .relative⟩)

/-- A converter for another intent and quality, without a profile that could be opened. -/
def coarse : Converter :=
  .ofSettings .usual (some ⟨.ofText "nowhere.icc", some (.ofText "none.icc"), .absolute⟩) (some 10)

/-- A missing backstop profile is not missed, and a gray picture is spared whatever the plan. -/
theorem convert_ignores_missing_profiles :
    (converter.convert "in.tif" "out" (holding profiled)).result = .ok .cmykWithUsableIcc ∧
    converter.convert "in.tif" "out" (holding profiled) =
      backless.convert "in.tif" "out" (holding profiled) ∧
    converter.convert "in.tif" "out" (holding gray) =
      coarse.convert "in.tif" "out" (holding gray) := by
  have usable : (converter.convert "in.tif" "out" (holding profiled)).result =
      .ok .cmykWithUsableIcc := by
    decide +kernel
  have opening : Input.Opens (.ofText "in.tif") (holding gray) (.ok gray) _ :=
    .opened (by decide +kernel) (.intro rfl)
  have other : ∀ (image : Image) after,
      Input.Opens (.ofText "in.tif") (holding gray) (.ok image) after →
        (library.header image).mode ≠ "CMYK" := by
    intro image after again
    obtain ⟨same, _⟩ := opening.unique_ok again
    obtain rfl := Except.ok.inj same
    decide
  exact ⟨usable,
    (Converter.convert_ignores_unused "in.tif" "out" (holding profiled)).1 converter backless
      (.intro converter _ _) usable,
    ((Converter.convert_ignores_unused "in.tif" "out" (holding gray)).2 converter coarse rfl rfl
      other).1⟩

end Scripted
end InkToScreen
