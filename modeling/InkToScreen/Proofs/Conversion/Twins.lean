import InkToScreen.Proofs.Conversion.Effect
import InkToScreen.Proofs.Conversion.Mild
import InkToScreen.Proofs.Conversion.Order
import InkToScreen.Proofs.Files.Beside
import InkToScreen.Proofs.Run.Steady

namespace InkToScreen
variable {lib : Library} {α : Type}

/-- A library whose answers depend on nothing but what it is given: it remembers nothing, takes no
file away and makes no profile of a file that is not there or may not be read. -/
structure Library.IsForgetful (lib : Library) : Prop where
  openImage : ∀ path content, Forgets (lib.openImage path content)
  load : ∀ image, Forgets (lib.load image)
  builtinProfile : Forgets lib.builtinProfile
  parseProfile : ∀ bytes, Forgets (lib.parseProfile bytes)
  openProfile : ∀ path content, Forgets (lib.openProfile path content)
  supportsIntent : ∀ profile intent, Forgets (lib.supportsIntent profile intent)
  defaultIntent : ∀ profile, Forgets (lib.defaultIntent profile)
  buildTransform : ∀ source target direction intent,
    Forgets (lib.buildTransform source target direction intent)
  applyTransform : ∀ image transform, Forgets (lib.applyTransform image transform)
  profileBytes : ∀ profile, Forgets (lib.profileBytes profile)
  encode : ∀ image options memory other,
    (lib.encode image options memory).1 = (lib.encode image options other).1
  lasting : ∀ image, lib.isFleeting image = false
  unreadable : ∀ path memory, ∃ cause, (lib.openProfile path none memory).1 = .error cause

/-- Whatever the library remembers, it encodes a picture alike. -/
theorem Library.IsForgetful.encodes (forgetful : lib.IsForgetful) {image : lib.Image}
    {options : JpegOptions lib.Blob} {encoding : Encoding lib.Content} {memory left : lib.Memory}
    (encoded : lib.encode image options memory = (encoding, left)) (other : lib.Memory) :
    ∃ left, lib.encode image options other = (encoding, left) := by
  have same := forgetful.encode image options memory other
  rw [encoded] at same
  exact ⟨(lib.encode image options other).2, Prod.ext same.symm rfl⟩

/-- Two worlds have the same files, or each still has its own. -/
structure World.Twins (first second : Files lib.Content) (here there : World lib) : Prop where
  umask : here.umask = there.umask
  files : here.files = there.files ∨ here.files = first ∧ there.files = second

/-- Storing at a path comes to the same in two trees: they are the same tree, or the second one is
the first after something has been stored there. -/
inductive Files.Mirrors {Content : Type} (output : Path) : Files Content → Files Content → Prop
  | same (files : Files Content) : Mirrors output files files
  | stored {files : Files Content} {spare : Scratch} {content : Content}
      {permissions : Permissions} (placed : files.scratch output.parent = .ok spare)
      (again : (files.put place (.file content permissions)).scratch output.parent = .ok spare)
      (found : files.target output = .ok place) :
      Mirrors output files (files.put place (.file content permissions))

variable {first second : Files lib.Content} {here there : World lib} {path output : Path}

namespace World.Twins

theorem anyMemory : World.AnyMemory (Twins first second) :=
  fun _ _ twins _ _ => ⟨twins.umask, twins.files⟩

theorem steady_ask (call : Call lib) {answer : Answer lib.Memory α} (forgets : Forgets answer) :
    (Run.ask call answer).Steady (Twins first second) :=
  Run.steady_ask anyMemory call forgets

theorem readsAlike (twins : Twins first second here there)
    (alike : first.ReadsAlike second path) : here.files.ReadsAlike there.files path := by
  rcases twins.files with same | ⟨rfl, rfl⟩
  · rw [same]
    exact .refl _ _
  · exact alike

theorem mirrors (twins : Twins first second here there)
    (mirrors : Files.Mirrors output first second) :
    Files.Mirrors output here.files there.files := by
  rcases twins.files with same | ⟨rfl, rfl⟩
  · rw [same]
    exact .same _
  · exact mirrors

end World.Twins

namespace Files.Mirrors
variable {one two : Files α} {place : Place}

theorem scratch (mirrors : Mirrors output one two) :
    two.scratch output.parent = one.scratch output.parent := by
  cases mirrors with
  | same => rfl
  | stored placed again found => rw [placed, again]

theorem target (mirrors : Mirrors output one two) (found : one.target output = .ok place) :
    two.target output = .ok place := by
  cases mirrors with
  | same => exact found
  | stored placed again stored =>
    exact (sameFolders_put_file _ _ _ (isFolder_target stored)).target found

theorem put (mirrors : Mirrors output one two) (found : one.target output = .ok place)
    (node : Node α) : one.put place node = two.put place node := by
  cases mirrors with
  | same => rfl
  | stored placed again stored =>
    obtain rfl := Except.ok.inj (found.symm.trans stored)
    rw [put_put]

theorem rename_error {scratch : Scratch} {content : α} {permissions : Permissions} {cause : Fault}
    (mirrors : Mirrors output one two) (free : one.node? scratch.place = none)
    (refused : (one.put scratch.place (.file content permissions)).rename scratch output =
      .error cause) :
    (two.put scratch.place (.file content permissions)).rename scratch output = .error cause := by
  cases mirrors with
  | same => exact refused
  | stored placed again stored =>
    rw [rename_put_scratch free content permissions stored] at refused
    cases refused

end Files.Mirrors

section Steady
open World (Twins)
variable (forgetful : lib.IsForgetful)
include forgetful

namespace Plan
variable {plan : Plan}

theorem profileAt_steady (alike : first.ReadsAlike second path) :
    (profileAt path : Run lib lib.Profile).Steady (Twins first second) := by
  refine Run.steady_look fun here there twins => ?_
  rw [(twins.readsAlike alike).readable?]
  exact Twins.steady_ask _ (forgetful.openProfile _ _) here there twins

theorem target_steady (alike : ∀ path, plan.srgb = some path → first.ReadsAlike second path) :
    (plan.target : Run lib lib.Profile).Steady (Twins first second) := by
  unfold target
  cases srgb : plan.srgb with
  | none => exact Twins.steady_ask _ forgetful.builtinProfile
  | some path => exact (profileAt_steady forgetful (alike path srgb)).convertingFaults

theorem usableIntent_steady (role : Role) (source : lib.Profile) :
    (plan.usableIntent role source).Steady (Twins first second) := by
  refine (Twins.steady_ask _ (forgetful.supportsIntent _ _)).bind fun answer => ?_
  split
  · exact Run.steady_pure _
  · refine (Twins.steady_ask _ (forgetful.defaultIntent _)).bind fun number => ?_
    split
    · exact Run.steady_fail _
    · exact (Run.steady_note _).bind fun _ => Run.steady_pure _

theorem render_steady (image : lib.Image) (source target : lib.Profile) (intent : Intent) :
    (render image source target intent).Steady (Twins first second) := by
  refine (Twins.steady_ask _ (forgetful.buildTransform _ _ _ _)).bind fun transform => ?_
  refine (Twins.steady_ask _ (forgetful.applyTransform _ _)).bind fun result => ?_
  split
  · exact Run.steady_fail _
  · exact Run.steady_pure _

theorem attempt_steady (role : Role) (image : lib.Image) {source : Run lib lib.Profile}
    (target : lib.Profile) (started : source.Steady (Twins first second)) :
    (plan.attempt role image source target).Steady (Twins first second) := by
  refine started.reify.bind fun given => ?_
  split
  · exact Run.steady_pure _
  · refine (usableIntent_steady forgetful role _).reify.bind fun chosen => ?_
    split
    · exact Run.steady_pure _
    · exact (render_steady forgetful image _ target _).reify.bind fun _ => Run.steady_pure _

theorem finish_steady (image : lib.Image) (source : ProfileSource) (intent : Intent)
    (target : lib.Profile) (warnings : List Notice) :
    (finish image source intent target warnings).Steady (Twins first second) :=
  (Twins.steady_ask _ (forgetful.profileBytes _)).bind fun _ => Run.steady_pure _

theorem useBackstop_steady (alike : first.ReadsAlike second plan.backstop) (input : Input lib)
    (target : lib.Profile) (source : ProfileSource) (warnings : List Notice) :
    (plan.useBackstop input target source warnings).Steady (Twins first second) := by
  refine (profileAt_steady forgetful alike).convertingFaults.bind fun backstop => ?_
  refine (attempt_steady forgetful _ _ target (Run.steady_pure backstop)).bind fun tried => ?_
  exact (Run.steady_ofExcept _).convertingFaults.bind fun made =>
    finish_steady forgetful _ _ _ _ _

/-- The way to screen colours is steady if the profiles that it may open read alike. -/
theorem toSrgb_steady (input : Input lib)
    (target : ∀ path, plan.srgb = some path → first.ReadsAlike second path)
    (backstop : first.ReadsAlike second plan.backstop) :
    (plan.toSrgb input).Steady (Twins first second) := by
  refine (Twins.steady_ask _ (forgetful.load _)).convertingFaults.bind fun _ => ?_
  refine (target_steady forgetful target).bind fun target => ?_
  split
  · exact (Run.steady_note _).bind fun _ => useBackstop_steady forgetful backstop _ _ _ _
  · refine (attempt_steady forgetful _ _ target
      (Twins.steady_ask _ (forgetful.parseProfile _))).bind fun tried => ?_
    split
    · exact finish_steady forgetful _ _ _ _ _
    · exact Run.steady_fail _
    · split
      · exact (Run.steady_note _).bind fun _ => useBackstop_steady forgetful backstop _ _ _ _
      · exact Run.steady_fail _

end Plan

namespace Input

theorem openImage_steady (alike : first.ReadsAlike second path) :
    (openImage path : Run lib lib.Image).Steady (Twins first second) := by
  have checked : (content? path : Run lib (Option lib.Content)).Steady (Twins first second) := by
    refine Run.steady_look fun here there twins => ?_
    rw [(twins.readsAlike alike).names, (twins.readsAlike alike).readable?]
    split
    · exact Run.steady_fail _ here there twins
    · exact Run.steady_fail _ here there twins
    · exact Run.steady_pure _ here there twins
  refine checked.bind fun content => ?_
  refine (Twins.steady_ask _ (forgetful.openImage _ _)).reify.bind fun given => ?_
  split
  · exact Run.steady_fail _
  · exact Run.steady_fail _
  · simp only [forgetful.lasting]
    exact Run.steady_pure _

theorem use_steady {work : Input lib → Run lib α} (alike : first.ReadsAlike second path)
    (worked : ∀ input, (work input).Steady (Twins first second)) :
    (use path work).Steady (Twins first second) := by
  refine (openImage_steady forgetful alike).bind fun image => Run.Steady.ensuring_close ?_ _ _
  refine Run.steady_look fun here there twins => ?_
  have same : ofImage path image here.files = ofImage path image there.files := by
    simp only [ofImage, (twins.readsAlike alike).content?]
  rw [same]
  exact ((Run.steady_note _).bind fun _ => worked _) here there twins

end Input

namespace Jpeg
variable {quality : Int} {image : lib.Image} {icc exif : Option lib.Blob} {after : World lib}
  {given : Except (Stage × Fault) Unit}

omit forgetful in
theorem save_signs (quality : Int) (image : lib.Image) (path : Path) (icc exif : Option lib.Blob) :
    (save quality image path icc exif).Signs (.wrote path quality) := by
  refine (newScratch_gives path.parent).convertingFaults.bind_signs fun scratch => ?_
  refine (written_gives image (options quality icc exif) scratch path).reify.bind_signs
    fun given => ?_
  cases given with
  | ok _ => exact fun _ => rfl
  | error failure =>
    refine (discard_gives scratch).bind_signs fun _ => ?_
    exact Run.signs_convertingFaults_fail _ _ _ _

/-- Storing a picture comes to the same in both of two twin worlds. -/
theorem Stores.twin (twins : Twins first second here there)
    (mirrors : Files.Mirrors path first second)
    (stored : Stores quality image path icc exif here given after) :
    ∃ afterward, Stores quality image path icc exif there given afterward ∧
      Twins first second after afterward := by
  have mirror := twins.mirrors mirrors
  cases stored with
  | unplaced refused => exact ⟨_, .unplaced (mirror.scratch.trans refused), twins⟩
  | unencoded placed encoded failed =>
    obtain ⟨left, again⟩ := forgetful.encodes encoded there.memory
    exact ⟨_, .unencoded (mirror.scratch.trans placed) again failed, Twins.anyMemory _ _ twins _ _⟩
  | lost placed encoded sound lost =>
    obtain ⟨left, again⟩ := forgetful.encodes encoded there.memory
    exact ⟨_, .lost (mirror.scratch.trans placed) again sound lost, Twins.anyMemory _ _ twins _ _⟩
  | unmoved placed encoded sound kept refused =>
    obtain ⟨left, again⟩ := forgetful.encodes encoded there.memory
    have refusedToo := mirror.rename_error (Files.node?_of_scratch placed) refused
    rw [twins.umask] at refusedToo
    exact ⟨_, .unmoved (mirror.scratch.trans placed) again sound kept refusedToo,
      Twins.anyMemory _ _ twins _ _⟩
  | stored placed encoded sound kept found =>
    obtain ⟨left, again⟩ := forgetful.encodes encoded there.memory
    refine ⟨_, .stored (mirror.scratch.trans placed) again sound kept (mirror.target found),
      twins.umask, .inl ?_⟩
    simp only [mirror.put found, twins.umask]

omit forgetful in
theorem calls_save_eq (same : there.files.scratch path.parent = here.files.scratch path.parent) :
    (save quality image path icc exif here).calls =
      (save quality image path icc exif there).calls := by
  cases placed : here.files.scratch path.parent with
  | error cause => rw [calls_save_unplaced placed, calls_save_unplaced (same.trans placed)]
  | ok scratch => rw [calls_save placed, calls_save (same.trans placed)]

theorem save_steady (quality : Int) (image : lib.Image) (icc exif : Option lib.Blob)
    (mirrors : Files.Mirrors path first second) :
    (save quality image path icc exif).Steady (Twins first second) := by
  intro here there twins
  obtain ⟨given, after, stored⟩ := Stores.total quality image path icc exif here
  obtain ⟨afterward, storedToo, twinsAfter⟩ := stored.twin forgetful twins mirrors
  -- the plan and the input only name the failure
  let plan : Plan := { backstop := path, srgb := none, intent := .relative }
  have ended := stored.ends plan path
  have endedToo := storedToo.ends plan path
  have same := ended.1.trans endedToo.1.symm
  refine ⟨same, ?_, calls_save_eq (twins.mirrors mirrors).scratch, ?_⟩
  · rw [save_signs quality image path icc exif here, same, save_signs quality image path icc exif]
  · rw [ended.2, endedToo.2]
    exact twinsAfter

end Jpeg

namespace Converter
variable {converter : Converter} {stem : String}

theorem produce_steady (mirrors : Files.Mirrors (converter.output stem) first second)
    (srgb : ∀ path, converter.plan.srgb = some path → first.ReadsAlike second path)
    (backstop : first.ReadsAlike second converter.plan.backstop) (picture : Input lib) :
    (converter.produce picture (converter.settings.outputName stem)).Steady
      (Twins first second) := by
  refine (Plan.toSrgb_steady forgetful picture srgb backstop).bind fun result => ?_
  refine Run.Steady.ensuring_close ?_ .result result.image
  exact (Jpeg.save_steady forgetful _ _ _ _ mirrors).bind fun _ => Run.steady_pure result

theorem attempt_steady (mirrors : Files.Mirrors (converter.output stem) first second)
    (input : first.ReadsAlike second path)
    (srgb : ∀ path, converter.plan.srgb = some path → first.ReadsAlike second path)
    (backstop : first.ReadsAlike second converter.plan.backstop) :
    (converter.attempt path stem : Run lib Status).Steady (Twins first second) := by
  have worked (picture : Input lib) :
      (converter.work (converter.settings.outputName stem) picture).Steady
        (Twins first second) := by
    unfold work
    split
    · exact (produce_steady forgetful mirrors srgb backstop picture).map
    · exact (Run.steady_note _).bind fun _ => Run.steady_pure none
  unfold attempt
  split
  · exact Run.steady_fail _
  · refine (Input.use_steady forgetful input worked).bind fun made => ?_
    split
    · exact Run.steady_pure _
    · exact (Run.steady_note _).bind fun _ => Run.steady_pure _

/-- A conversion is steady if storing at its output path comes to the same and all that it may read
reads alike. -/
theorem convert_steady {text : String}
    (mirrors : Files.Mirrors (converter.output stem) first second)
    (input : first.ReadsAlike second (.ofText text))
    (srgb : ∀ path, converter.plan.srgb = some path → first.ReadsAlike second path)
    (backstop : first.ReadsAlike second converter.plan.backstop) :
    (converter.convert text stem : Run lib Status).Steady (Twins first second) := by
  refine (attempt_steady forgetful mirrors input srgb backstop).reify.bind fun given => ?_
  split
  · exact Run.steady_pure _
  · split
    · exact Run.steady_fail _
    · exact (Run.steady_note _).bind fun _ => Run.steady_pure _

end Converter

end Steady
end InkToScreen
