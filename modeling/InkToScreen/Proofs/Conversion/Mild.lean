import InkToScreen.Conversion.Convert
import InkToScreen.Proofs.Run.Gives

namespace InkToScreen
variable {lib : Library} {α : Type}

/-- A notice that is less than an error. -/
def Notice.IsMild (notice : Notice) : Prop :=
  notice.level ≠ .error

namespace Input

/-- Opening a picture gives no notices. -/
theorem openImage_silent (path : Path) (allowed : Notice → Prop) :
    (openImage path : Run lib lib.Image).Gives allowed := by
  have checked : (content? path : Run lib (Option lib.Content)).Gives allowed := by
    refine Run.gives_look.bind fun world => ?_
    split
    · exact Run.gives_fail _
    · exact Run.gives_fail _
    · exact Run.gives_pure _
  refine checked.bind fun content => (Run.gives_ask _ _).reify.bind fun given => ?_
  split
  · exact Run.gives_fail _
  · exact Run.gives_fail _
  · split
    · refine Run.gives_look.bind fun world => ?_
      split
      · exact (Run.gives_setFiles _).bind fun _ => Run.gives_pure _
      · exact Run.gives_pure _
    · exact Run.gives_pure _

theorem use_mild (path : Path) {work : Input lib → Run lib α}
    (worked : ∀ input, (work input).Gives Notice.IsMild) :
    (use path work).Gives Notice.IsMild := by
  refine (openImage_silent path _).bind fun image => Run.Gives.ensuring ?_ (Run.gives_close _ _)
  refine Run.gives_look.bind fun world => (Run.gives_note ?_).bind fun _ => worked _
  simp [notice, Notice.IsMild, Notice.level]

end Input

namespace Plan
variable {plan : Plan}

theorem profileAt_mild (path : Path) :
    (profileAt path : Run lib lib.Profile).Gives Notice.IsMild :=
  Run.gives_look.bind fun _ => Run.gives_ask _ _

theorem target_mild (plan : Plan) : (plan.target : Run lib lib.Profile).Gives Notice.IsMild := by
  unfold target
  split
  · exact Run.gives_ask _ _
  · exact (profileAt_mild _).convertingFaults

theorem usableIntent_mild (plan : Plan) (role : Role) (source : lib.Profile) :
    (plan.usableIntent role source).Gives Notice.IsMild := by
  refine (Run.gives_ask _ _).bind fun supported => ?_
  split
  · exact Run.gives_pure _
  · refine (Run.gives_ask _ _).bind fun number => ?_
    split
    · exact Run.gives_fail _
    · refine (Run.gives_note ?_).bind fun _ => Run.gives_pure _
      simp [Notice.IsMild, Notice.level]

theorem render_mild (image : lib.Image) (source target : lib.Profile) (intent : Intent) :
    (render image source target intent).Gives Notice.IsMild := by
  refine (Run.gives_ask _ _).bind fun transform => (Run.gives_ask _ _).bind fun result => ?_
  split
  · exact Run.gives_fail _
  · exact Run.gives_pure _

theorem attempt_mild (plan : Plan) (role : Role) (image : lib.Image)
    {source : Run lib lib.Profile} (target : lib.Profile)
    (started : source.Gives Notice.IsMild) :
    (plan.attempt role image source target).Gives Notice.IsMild := by
  refine started.reify.bind fun given => ?_
  split
  · exact Run.gives_pure _
  · refine (usableIntent_mild plan role _).reify.bind fun chosen => ?_
    split
    · exact Run.gives_pure _
    · exact (render_mild image _ target _).reify.bind fun _ => Run.gives_pure _

theorem finish_mild (image : lib.Image) (source : ProfileSource) (intent : Intent)
    (target : lib.Profile) (warnings : List Notice) :
    (finish image source intent target warnings).Gives Notice.IsMild :=
  (Run.gives_ask _ _).bind fun _ => Run.gives_pure _

theorem useBackstop_mild (plan : Plan) (input : Input lib) (target : lib.Profile)
    (source : ProfileSource) (warnings : List Notice) :
    (plan.useBackstop input target source warnings).Gives Notice.IsMild := by
  refine (profileAt_mild plan.backstop).convertingFaults.bind fun backstop => ?_
  refine (attempt_mild plan _ _ target (Run.gives_pure backstop)).bind fun tried => ?_
  exact (Run.gives_ofExcept _).convertingFaults.bind fun made => finish_mild _ _ _ _ _

theorem toSrgb_mild (plan : Plan) (input : Input lib) :
    (plan.toSrgb input).Gives Notice.IsMild := by
  refine (Run.gives_ask _ _).convertingFaults.bind fun _ => ?_
  refine (target_mild plan).bind fun target => ?_
  split
  · refine (Run.gives_note ?_).bind fun _ => useBackstop_mild _ _ _ _ _
    simp [Notice.IsMild, Notice.level]
  · refine (attempt_mild plan _ _ target (Run.gives_ask _ _)).bind fun tried => ?_
    split
    · exact finish_mild _ _ _ _ _
    · exact Run.gives_fail _
    · split
      · refine (Run.gives_note ?_).bind fun _ => useBackstop_mild _ _ _ _ _
        simp [Notice.IsMild, Notice.level]
      · exact Run.gives_fail _

end Plan

namespace Jpeg
variable {allowed : Notice → Prop}

theorem newScratch_gives (folder : Path) :
    (newScratch folder : Run lib Scratch).Gives allowed :=
  Run.gives_look.bind fun _ => Run.gives_ofExcept _

theorem encode_gives (image : lib.Image) (options : JpegOptions lib.Blob) (scratch : Scratch) :
    (encode image options scratch).Gives allowed := by
  refine Run.gives_look.bind fun world => (Run.gives_ask _ _).bind fun encoding => ?_
  refine (Run.gives_setFiles _).bind fun _ => ?_
  split
  · exact Run.gives_pure _
  · exact Run.gives_fail _

theorem install_gives (scratch : Scratch) (path : Path) :
    (install scratch path : Run lib Unit).Gives allowed := by
  have masked : (currentUmask : Run lib Permissions).Gives allowed :=
    (Run.gives_setUmask _).bind fun _ => (Run.gives_setUmask _).bind fun _ => Run.gives_pure _
  refine masked.bind fun mask => Run.gives_look.bind fun world => ?_
  refine (Run.gives_ofExcept _).bind fun permitted => (Run.gives_setFiles _).bind fun _ => ?_
  exact (Run.gives_ofExcept _).bind fun renamed => Run.gives_setFiles _

theorem discard_gives (scratch : Scratch) : (discard scratch : Run lib Unit).Gives allowed :=
  Run.gives_look.bind fun _ => Run.gives_setFiles _

theorem written_gives (image : lib.Image) (options : JpegOptions lib.Blob) (scratch : Scratch)
    (path : Path) : (do encode image options scratch; install scratch path).Gives allowed :=
  (encode_gives image options scratch).bind fun _ => install_gives scratch path

theorem save_mild (quality : Int) (image : lib.Image) (path : Path) (icc exif : Option lib.Blob) :
    (save quality image path icc exif).Gives Notice.IsMild := by
  refine (newScratch_gives _).convertingFaults.bind fun scratch => ?_
  refine (written_gives image (options quality icc exif) scratch path).reify.bind fun given => ?_
  split
  · refine (Run.gives_note ?_).bind fun _ => Run.gives_pure _
    simp [Notice.IsMild, Notice.level]
  · exact (discard_gives scratch).bind fun _ => (Run.gives_fail _).convertingFaults

end Jpeg

namespace Converter

theorem produce_mild (converter : Converter) (input : Input lib) (output : String) :
    (converter.produce input output).Gives Notice.IsMild := by
  refine (Plan.toSrgb_mild _ input).bind fun result => Run.Gives.ensuring ?_ (Run.gives_close _ _)
  exact (Jpeg.save_mild _ _ _ _ _).bind fun _ => Run.gives_pure _

theorem work_mild (converter : Converter) (output : String) (picture : Input lib) :
    (converter.work output picture).Gives Notice.IsMild := by
  unfold work
  split
  · exact (produce_mild converter picture output).map
  · refine (Run.gives_note ?_).bind fun _ => Run.gives_pure _
    simp [Notice.IsMild, Notice.level]

/-- An attempt at a conversion gives no error notice, whatever becomes of it. -/
theorem attempt_mild (converter : Converter) (input : Path) (stem : String) :
    (converter.attempt input stem : Run lib Status).Gives Notice.IsMild := by
  unfold attempt
  split
  · exact Run.gives_fail _
  · refine (Input.use_mild input (work_mild converter _)).bind fun made => ?_
    split
    · exact Run.gives_pure _
    · refine (Run.gives_note ?_).bind fun _ => Run.gives_pure _
      simp [Notice.IsMild, Notice.level]

end Converter
end InkToScreen
