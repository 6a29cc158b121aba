import InkToScreen.Proofs.Conversion.Accounts
import InkToScreen.Proofs.Conversion.Saving
import InkToScreen.Proofs.Conversion.StepsOfCourse

namespace InkToScreen
variable {lib : Library}

/-- The options carry a quality, and bytes unless they are empty. -/
structure JpegOptions.Carries (options : JpegOptions lib.Blob) (quality : Int) (profile : lib.Blob)
    (exif : Option lib.Blob) : Prop where
  quality_eq : options.quality = quality
  full_iff : options.subsampling = some 0 ↔ 90 ≤ quality
  usual_iff : options.subsampling = none ↔ quality < 90
  icc_iff : ∀ bytes, options.icc = some bytes ↔ bytes = profile ∧ lib.isEmpty bytes = false
  exif_iff : ∀ bytes, options.exif = some bytes ↔ exif = some bytes ∧ lib.isEmpty bytes = false

theorem Jpeg.options_carries (quality : Int) (profile : lib.Blob) (exif : Option lib.Blob) :
    (Jpeg.options quality (some profile) exif).Carries quality profile exif where
  quality_eq := rfl
  full_iff := by
    by_cases full : 90 ≤ quality
    · simp [Jpeg.options, fullColourQuality, full]
    · simp [Jpeg.options, fullColourQuality, full]
  usual_iff := by
    by_cases full : 90 ≤ quality
    · simp [Jpeg.options, fullColourQuality, full]
    · simp [Jpeg.options, fullColourQuality, full, Int.not_le.mp full]
  icc_iff := by
    intro bytes
    simp only [Jpeg.options, Option.filter_eq_some_iff, Option.some.injEq, Bool.not_eq_true']
    exact and_congr_left fun _ => eq_comm
  exif_iff := by simp [Jpeg.options, Option.filter_eq_some_iff]

/-- What a reader finds in the files of the encoder is what the encoder was asked for, whenever it
has done its work. -/
def Library.Records (lib : Library) (read : lib.Content → Option (JpegOptions lib.Blob)) : Prop :=
  ∀ image options memory, (lib.encode image options memory).1.fault = none →
    read (lib.encode image options memory).1.content = some options

def Call.encoded? : Call lib → Option (lib.Image × JpegOptions lib.Blob)
  | .encode image options _ => some (image, options)
  | _ => none

theorem Call.encoded?_eq_none {call : Call lib} (other : call.isEncode = false) :
    call.encoded? = none := by
  cases call with
  | encode => cases other
  | _ => rfl

/-- A successful conversion: what it has opened, made and encoded. -/
structure Handover (lib : Library) where
  picture : lib.Image
  rendering : Rendering lib
  own : List (Exchange lib)
  backstop : List (Exchange lib)
  profile : lib.Blob
  options : JpegOptions lib.Blob
  folder : Place
  encoding : Encoding lib.Content

namespace Handover

/-- The exchanges of the conversion, from the opening of the input to its closing. The bytes of the
profile that the picture was made for are asked for just before the encoder is called. -/
def exchanges (handover : Handover lib) (plan : Plan) (input : Path) : List (Exchange lib) :=
  [⟨.openImage input, .ok handover.picture⟩, ⟨.load handover.picture, .ok ()⟩,
    plan.targeting handover.rendering.target] ++ (handover.own ++ handover.backstop) ++
      [⟨.profileBytes handover.rendering.target, .ok handover.profile⟩,
        ⟨.encode handover.rendering.image handover.options handover.folder, .ok handover.encoding⟩,
        ⟨.close .result handover.rendering.image, .ok ()⟩,
        ⟨.close .input handover.picture, .ok ()⟩]

/-- A conversion goes as told, and its encoding is what it leaves at the output path. -/
structure Tells (handover : Handover lib) (converter : Converter) (input stem : String)
    (before : World lib) : Prop where
  speaks : ∃ after, (converter.convert input stem).Speaks before
    (handover.exchanges converter.plan (.ofText input)) after
  accounts : ∃ files, converter.plan.Accounts (.ofImage (.ofText input) handover.picture files)
    handover.rendering.target handover.own handover.backstop handover.rendering
  once : (converter.convert input stem before).calls.filterMap Call.encoded? =
    [(handover.rendering.image, handover.options)]
  stored : ∃ left, Input.Leaves (.ofText input) before left ∧
    Files.StoredAt (converter.output stem) handover.encoding.content (.newFile before.umask) left
      (converter.convert input stem before).world.files

end Handover

namespace Converter
variable {converter : Converter} {stem text : String} {before between made after : World lib}
  {picture : lib.Image} {result : Transformed lib} {scratch : Scratch}

/-- What is handed over once there are a rendering and the bytes of the profile that it was made
for. -/
def handover (converter : Converter) (picture : lib.Image) (rendering : Rendering lib)
    (own backstop : List (Exchange lib)) (profile : lib.Blob) (made : World lib)
    (scratch : Scratch) : Handover lib where
  picture := picture
  rendering := rendering
  own := own
  backstop := backstop
  profile := profile
  options := Jpeg.options converter.quality (some profile) (lib.header picture).exif
  folder := scratch.folder
  encoding := Jpeg.encoding converter.quality rendering.image (some profile)
    (lib.header picture).exif made.memory

/-- A conversion that makes a picture and has a scratch file for it goes as its handover says. -/
theorem convert_speaks (accepted : converter.settings.Accepts stem)
    (opening : Input.Opens (.ofText text) before (.ok picture) between)
    (inks : (lib.header picture).mode = "CMYK")
    (transformed : converter.plan.Transforms (.ofImage (.ofText text) picture between.files) between
      (.ok result) made)
    (placed : made.files.scratch (converter.output stem).parent = .ok scratch) :
    ∃ rendering own backstop after,
      (converter.convert text stem).Speaks before
        ((converter.handover picture rendering own backstop result.profile made scratch).exchanges
          converter.plan (.ofText text)) after ∧
      converter.plan.Accounts (.ofImage (.ofText text) picture between.files) rendering.target own
        backstop rendering ∧
      rendering.source = result.source ∧ rendering.image = result.image := by
  obtain ⟨record, last, produced, taken⟩ :=
    convert_takes_of_scratch accepted opening inks transformed placed
  have speaks := taken.speaks
  cases produced with
  | placed transformedBy =>
    obtain ⟨rendering, own, backstop, exchanges, _, accounts, same⟩ := transformedBy.recounts
    have image : rendering.image = result.image := by rw [same]
    have source : rendering.source = result.source := by rw [same]
    refine ⟨rendering, own, backstop, last, ?_, accounts, source, image⟩
    rw [List.map_cons, List.map_append, List.map_append, exchanges, ← image] at speaks
    simpa [handover, Handover.exchanges, Entry.exchange, Input.ofImage] using speaks

/-- The course of a conversion with a result says what was handed over. -/
theorem Course.handsOver
    (taken : converter.Course (.ofText text) stem before (.converted result) after) :
    ∃ handover : Handover lib, handover.rendering.source = result.source ∧
      handover.Tells converter text stem before ∧
      handover.options.Carries converter.quality handover.profile
        (lib.header handover.picture).exif ∧
      ∀ read, lib.Records read → read handover.encoding.content = some handover.options := by
  have reached := taken.convert_ends.2
  cases taken with
  | @converted picture between _ made _ accepted opening inks transformed stored =>
    have savable := stored.savable_iff.mp rfl
    obtain ⟨scratch, placed⟩ := Files.exists_scratch_iff.mpr savable.hosted
    obtain ⟨rendering, own, backstop, last, speaks, accounts, source, image⟩ :=
      convert_speaks accepted opening inks transformed placed
    have sound := savable.sound
    have kept := stored.storedAt
    rw [← image] at sound kept
    have system := transformed.sameSystem
    refine ⟨converter.handover picture rendering own backstop result.profile made scratch, source,
      ⟨⟨last, speaks⟩, ⟨between.files, accounts⟩, ?_, made.files, ?_, ?_⟩,
      Jpeg.options_carries _ _ _, fun read records => records _ _ _ sound⟩
    · have once := convert_encodes_once accepted opening inks transformed placed
      rw [← image] at once
      rw [← Call.filterMap_filter_isEncode fun _ => Call.encoded?_eq_none, once]
      rfl
    · rw [system.files]
      exact opening.leaves
    · rw [reached, ← opening.umask, ← system.umask]
      exact kept

/-- A successful conversion calls the encoder once, with the picture that the transform has made and
the options that belong to it; the file at the output path records just that. -/
theorem convert_hands_over (settings : Settings) (plan : Option Plan) (quality : Option Int)
    (input stem : String) (before : World lib) {source : ProfileSource}
    (returned : ((ofSettings settings plan quality).convert input stem before).result =
      .ok source.status) :
    ∃ handover : Handover lib, handover.rendering.source = source ∧
      handover.Tells (ofSettings settings plan quality) input stem before ∧
      handover.options.Carries (quality.getD settings.quality) handover.profile
        (lib.header handover.picture).exif ∧
      ∀ read, lib.Records read → read handover.encoding.content = some handover.options := by
  obtain ⟨verdict, after, taken⟩ :=
    Course.total (ofSettings settings plan quality) (.ofText input) stem before
  obtain ⟨result, rfl, rfl⟩ :=
    Verdict.converted_of_result (taken.convert_ends.1.symm.trans returned)
  exact taken.handsOver

end Converter

namespace Scripted

/-- What the files of the scripted encoder say about its options. -/
def recorded : Content → Option (JpegOptions String)
  | .encoded held => some held.options
  | _ => none

theorem records_recorded : library.Records recorded := by
  intro image options memory sound
  have whole : image.saveFault = none := sound
  simp [encode, recorded, whole]

/-- A picture with a profile that nobody knows, and with words about itself. -/
def unknownProfile : Image where
  mode := "CMYK"
  icc := some "own"
  exif := some "a camera"

/-- A conversion with a plan and a quality of its own. -/
def sharpRun : Run library Status :=
  (Converter.ofSettings .usual (some ⟨.ofText "backstop.icc", none, .relative⟩) (some 90)).convert
    "in.tif" "out"

/-- The options are handed over and recorded when the backstop is used, too. -/
theorem convert_hands_over_with_backstop :
    (sharpRun (holding unknownProfile)).result =
        .ok ProfileSource.backstopEmbeddedUnusable.status ∧
      ∃ handover : Handover library,
        handover.rendering.source = .backstopEmbeddedUnusable ∧
        @JpegOptions.Carries library handover.options 90 handover.profile
          (library.header handover.picture).exif ∧
        recorded handover.encoding.content = some handover.options := by
  have returned : (sharpRun (holding unknownProfile)).result =
      .ok ProfileSource.backstopEmbeddedUnusable.status := by
    decide +kernel
  obtain ⟨handover, source, _, carries, records⟩ := Converter.convert_hands_over .usual
    (some ⟨.ofText "backstop.icc", none, .relative⟩) (some 90) "in.tif" "out"
    (holding unknownProfile) returned
  exact ⟨returned, handover, source, carries, records recorded records_recorded⟩

end Scripted
end InkToScreen
