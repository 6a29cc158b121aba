import Mathlib.Control.Monad.Basic
import InkToScreen.Proofs.Conversion.Course

namespace InkToScreen
variable {lib : Library}

namespace Converter

/-- The output name is taken, the input opens in process inks, its pixels can be read and there is a
profile of the screen. -/
inductive Readies (converter : Converter) (input : Path) (stem : String) (before : World lib) :
    Input lib → lib.Profile → World lib → Prop
  | intro {target : lib.Profile} (accepted : converter.settings.Accepts stem)
      (opening : Input.Opens input before (.ok image) opened)
      (inks : (lib.header image).mode = "CMYK")
      (prepared : converter.plan.Prepares image opened target ready) :
      Readies converter input stem before (.ofImage input image opened.files) target ready

/-- A picture is stored at the output path, with the bytes of a profile and with the metadata of the
input. -/
inductive Saves (converter : Converter) (picture : Input lib) (stem : String) (image : lib.Image)
    (target : lib.Profile) (before : World lib) : Prop
  | intro (read : Answered (lib.profileBytes target) before (.ok profile) between)
      (stored : Jpeg.Stores converter.quality image (converter.output stem) (some profile)
        (lib.header picture.image).exif between (.ok ()) after)

/-- What leads to each status but that of a failure. -/
inductive Settles (converter : Converter) (input : Path) (stem : String) (before : World lib) :
    Status → Prop
  | notCmyk (accepted : converter.settings.Accepts stem)
      (opening : Input.Opens input before (.ok image) after)
      (other : (lib.header image).mode ≠ "CMYK") :
      Settles converter input stem before .probablyNotCmyk
  | usable {picture : Input lib} {target : lib.Profile} {intent : Intent}
      (readied : converter.Readies input stem before picture target ready)
      (carried : (lib.header picture.image).icc = some bytes)
      (filled : lib.isEmpty bytes = false)
      (tried : converter.plan.TriesEmbedded picture.image bytes target ready (.ok (image, intent))
        warnings after)
      (saved : converter.Saves picture stem image target after) :
      Settles converter input stem before .cmykWithUsableIcc
  | without {picture : Input lib} {target : lib.Profile}
      (readied : converter.Readies input stem before picture target ready)
      (absent : ∀ bytes, (lib.header picture.image).icc = some bytes → lib.isEmpty bytes = true)
      (fallen : converter.plan.FallsBack picture target .backstopNoEmbedded [] ready (.ok made)
        after)
      (saved : converter.Saves picture stem made.image made.target after) :
      Settles converter input stem before .cmykNoIcc
  | unusable {picture : Input lib} {target : lib.Profile}
      (readied : converter.Readies input stem before picture target ready)
      (carried : (lib.header picture.image).icc = some bytes)
      (filled : lib.isEmpty bytes = false)
      (failed : converter.plan.TriesEmbedded picture.image bytes target ready (.error cause)
        warnings tried)
      (absorbed : cause.kind = .profile ∨ cause.kind.isSystem = true ∨ cause.kind = .type ∨
        cause.kind = .value)
      (fallen : converter.plan.FallsBack picture target .backstopEmbeddedUnusable
        (warnings ++ [.embeddedUnusable picture.path cause]) tried (.ok made) after)
      (saved : converter.Saves picture stem made.image made.target after) :
      Settles converter input stem before .cmykWithUnusableIcc

/-- The decision table: a failure is what no other status is settled by. -/
def Decides (converter : Converter) (input : Path) (stem : String) (before : World lib) :
    Status → Prop
  | .fatalError => ∀ status, ¬ converter.Settles input stem before status
  | status => converter.Settles input stem before status

variable {converter : Converter} {input : Path} {stem : String} {before between after : World lib}
  {verdict : Verdict lib} {status : Status}

theorem source_of_fallsBack {plan : Plan} {picture : Input lib} {target : lib.Profile}
    {kind : ProfileSource} {earlier : List Notice} {made : Rendering lib}
    (fallen : plan.FallsBack picture target kind earlier before (.ok made) after) :
    made.source = kind ∧ made.target = target := by
  cases fallen with
  | rendered loaded tried => exact ⟨rfl, rfl⟩

private theorem course_of_renders {image : lib.Image} {made : Rendering lib}
    (accepted : converter.settings.Accepts stem)
    (opening : Input.Opens input before (.ok image) between)
    (inks : (lib.header image).mode = "CMYK")
    (rendered : converter.plan.Renders (.ofImage input image between.files) between (.ok made)
      after)
    (saved : converter.Saves (.ofImage input image between.files) stem made.image made.target
      after) :
    ∃ verdict last, converter.Course input stem before verdict last ∧
      verdict.result = .ok made.source.status := by
  cases saved with
  | intro read stored =>
    exact ⟨_, _, .converted accepted opening inks (.transformed rendered read) stored, rfl⟩

/-- What settles a status makes a course that ends with it. -/
theorem Settles.course (settled : converter.Settles input stem before status) :
    ∃ verdict after, converter.Course input stem before verdict after ∧
      verdict.result = .ok status := by
  cases settled with
  | notCmyk accepted opening other => exact ⟨_, _, .spared accepted opening other, rfl⟩
  | usable readied carried filled tried saved =>
    cases readied with
    | intro accepted opening inks prepared =>
      refine course_of_renders accepted opening inks (.embedded prepared ?_ tried) saved
      exact Input.profile_eq_some_iff.mpr ⟨carried, filled⟩
  | without readied absent fallen saved =>
    cases readied with
    | intro accepted opening inks prepared =>
      have made := course_of_renders accepted opening inks
        (.unprofiled prepared (Input.profile_eq_none_iff.mpr absent) fallen) saved
      rw [(source_of_fallsBack fallen).1] at made
      exact made
  | unusable readied carried filled failed absorbed fallen saved =>
    cases readied with
    | intro accepted opening inks prepared =>
      have made := course_of_renders accepted opening inks (.fallback prepared
        (Input.profile_eq_some_iff.mpr ⟨carried, filled⟩) failed
        (Kind.isProfile_iff.mpr absorbed) fallen) saved
      rw [(source_of_fallsBack fallen).1] at made
      exact made

private theorem settles_of_renders {image : lib.Image} {made : Rendering lib}
    (accepted : converter.settings.Accepts stem)
    (opening : Input.Opens input before (.ok image) between)
    (inks : (lib.header image).mode = "CMYK")
    (rendered : converter.plan.Renders (.ofImage input image between.files) between (.ok made)
      after)
    (saved : converter.Saves (.ofImage input image between.files) stem made.image made.target
      after) :
    converter.Settles input stem before made.source.status := by
  cases rendered with
  | embedded prepared own tried =>
    obtain ⟨carried, filled⟩ := Input.profile_eq_some_iff.mp own
    exact .usable (.intro accepted opening inks prepared) carried filled tried saved
  | fallback prepared own failed absorbed fallen =>
    obtain ⟨carried, filled⟩ := Input.profile_eq_some_iff.mp own
    obtain ⟨sameSource, sameTarget⟩ := source_of_fallsBack fallen
    rw [sameSource]
    exact .unusable (.intro accepted opening inks prepared) carried filled failed
      (Kind.isProfile_iff.mp absorbed) fallen saved
  | unprofiled prepared none fallen =>
    rw [(source_of_fallsBack fallen).1]
    exact .without (.intro accepted opening inks prepared) (Input.profile_eq_none_iff.mp none)
      fallen saved

/-- A course that ends with a status settles it, if it is not that of a failure. -/
theorem Course.settles (taken : converter.Course input stem before verdict after)
    (returned : verdict.result = .ok status) (success : status ≠ .fatalError) :
    converter.Settles input stem before status := by
  cases taken with
  | refused faulty => exact absurd (Except.ok.inj returned).symm success
  | spared accepted opening other =>
    obtain rfl := Except.ok.inj returned
    exact .notCmyk accepted opening other
  | unopened | untransformed | unstored =>
    simp only [Verdict.result] at returned
    split at returned
    · exact absurd (Except.ok.inj returned).symm success
    · cases returned
  | converted accepted opening inks transformed stored =>
    obtain rfl := Except.ok.inj returned
    cases transformed with
    | transformed rendered read =>
      exact settles_of_renders accepted opening inks rendered (.intro read stored)

theorem Settles.convert_eq {text : String}
    (settled : converter.Settles (.ofText text) stem before status) :
    (converter.convert text stem before).result = .ok status := by
  obtain ⟨verdict, after, taken, returned⟩ := settled.course
  exact taken.convert_ends.1.trans returned

/-- A conversion that returns a status returns the one that the decision table gives. -/
theorem convert_eq_ok_iff_decides (converter : Converter) (input stem : String) (before : World lib)
    (returns : ∃ status, (converter.convert input stem before).result = .ok status)
    (status : Status) :
    (converter.convert input stem before).result = .ok status ↔
      converter.Decides (.ofText input) stem before status := by
  obtain ⟨verdict, after, taken⟩ := Course.total converter (.ofText input) stem before
  have ended := taken.convert_ends.1
  have settles (status : Status) (success : status ≠ .fatalError) :
      (converter.convert input stem before).result = .ok status ↔
        converter.Settles (.ofText input) stem before status := by
    constructor
    · intro returned
      exact taken.settles (ended.symm.trans returned) success
    · exact Settles.convert_eq
  cases status with
  | probablyNotCmyk | cmykWithUnusableIcc | cmykNoIcc | cmykWithUsableIcc =>
    exact settles _ (by simp)
  | fatalError =>
    constructor
    · intro failed other settled
      have same := Except.ok.inj (settled.convert_eq.symm.trans failed)
      subst same
      cases settled
    · intro unsettled
      obtain ⟨status, returned⟩ := returns
      -- any other status that is returned is settled, and nothing is
      by_cases failed : status = .fatalError
      · rw [returned, failed]
      · exact absurd ((settles status failed).mp returned) (unsettled status)

end Converter

namespace Scripted

/-- A picture in process inks whose own profile cannot be read. -/
def spoilt : Image where
  mode := "CMYK"
  icc := some "own"
  carried := some { name := "own", openFault := some (.reported .profile "broken") }

/-- The backstop profile takes the place of one that cannot be read. -/
theorem convert_replaces_spoilt_profile :
    (∃ status, (converter.convert "in.tif" "out" (holding spoilt)).result = .ok status) ∧
      converter.Decides (.ofText "in.tif") "out" (holding spoilt) .cmykWithUnusableIcc := by
  have returned : (converter.convert "in.tif" "out" (holding spoilt)).result =
      .ok .cmykWithUnusableIcc := by
    decide +kernel
  exact ⟨⟨_, returned⟩, (Converter.convert_eq_ok_iff_decides converter "in.tif" "out"
    (holding spoilt) ⟨_, returned⟩ _).mp returned⟩

end Scripted
end InkToScreen
