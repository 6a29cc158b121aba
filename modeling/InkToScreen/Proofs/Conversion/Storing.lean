import InkToScreen.Proofs.Conversion.Stage
import InkToScreen.Proofs.Files.Folders

namespace InkToScreen.Jpeg
variable {lib : Library}

/-- What storing a picture at a path comes to. -/
inductive Stores (quality : Int) (image : lib.Image) (path : Path) (icc exif : Option lib.Blob)
    (before : World lib) : Except (Stage × Fault) Unit → World lib → Prop
  | unplaced (refused : before.files.scratch path.parent = .error cause) :
      Stores quality image path icc exif before (.error (.placing, cause)) before
  | unencoded (placed : before.files.scratch path.parent = .ok scratch)
      (encoded : lib.encode image (options quality icc exif) before.memory = (encoding, memory))
      (failed : encoding.fault = some cause) :
      Stores quality image path icc exif before (.error (.writing, cause)) { before with memory }
  | lost (placed : before.files.scratch path.parent = .ok scratch)
      (encoded : lib.encode image (options quality icc exif) before.memory = (encoding, memory))
      (sound : encoding.fault = none) (lost : encoding.lost = true) :
      Stores quality image path icc exif before
        (.error (.writing, .system ⟨.missing, [scratch.text]⟩)) { before with memory }
  | unmoved (placed : before.files.scratch path.parent = .ok scratch)
      (encoded : lib.encode image (options quality icc exif) before.memory = (encoding, memory))
      (sound : encoding.fault = none) (kept : encoding.lost = false)
      (refused : (before.files.put scratch.place
        (.file encoding.content (.newFile before.umask))).rename scratch path = .error cause) :
      Stores quality image path icc exif before (.error (.writing, cause)) { before with memory }
  | stored (placed : before.files.scratch path.parent = .ok scratch)
      (encoded : lib.encode image (options quality icc exif) before.memory = (encoding, memory))
      (sound : encoding.fault = none) (kept : encoding.lost = false)
      (found : before.files.target path = .ok place) :
      Stores quality image path icc exif before (.ok ())
        { before with
          memory
          files := before.files.put place (.file encoding.content (.newFile before.umask)) }

variable {quality : Int} {image : lib.Image} {path : Path} {icc exif : Option lib.Blob}
  {before after : World lib} {scratch : Scratch}

theorem Stores.total (quality : Int) (image : lib.Image) (path : Path)
    (icc exif : Option lib.Blob) (before : World lib) :
    ∃ given after, Stores quality image path icc exif before given after := by
  cases placed : before.files.scratch path.parent with
  | error cause => exact ⟨_, _, .unplaced placed⟩
  | ok scratch =>
    have free := Files.node?_of_scratch placed
    cases encoded : lib.encode image (options quality icc exif) before.memory with
    | mk encoding memory =>
      cases sound : encoding.fault with
      | some cause => exact ⟨_, _, .unencoded placed encoded sound⟩
      | none =>
        cases kept : encoding.lost with
        | true => exact ⟨_, _, .lost placed encoded sound kept⟩
        | false =>
          cases moved : (before.files.put scratch.place
              (.file encoding.content (.newFile before.umask))).rename scratch path with
          | error cause => exact ⟨_, _, .unmoved placed encoded sound kept moved⟩
          | ok renamed =>
            -- the scratch file is beside the folders, so the target was there before it was
            obtain ⟨place, found, _⟩ := Files.target_of_rename_put_scratch free moved
            exact ⟨_, _, .stored placed encoded sound kept found⟩

/-- A fault leaves files and mask as they were. -/
theorem Stores.sameSystem {stopped : Stage × Fault}
    (stored : Stores quality image path icc exif before (.error stopped) after) :
    before.SameSystem after := by
  cases stored <;> exact ⟨rfl, rfl⟩

theorem Stores.umask {given : Except (Stage × Fault) Unit}
    (stored : Stores quality image path icc exif before given after) :
    after.umask = before.umask := by
  cases stored <;> rfl

private theorem remove_written {files : Files lib.Content}
    (free : files.node? scratch.place = none) (encoding : Encoding lib.Content) :
    (written files scratch encoding).remove scratch.place = files := by
  unfold written
  split
  · rw [Files.remove_of_free files free, Files.remove_of_free files free]
  · exact Files.remove_put_of_free files _ free

private theorem encode_ends {jpegOptions : JpegOptions lib.Blob} {encoding : Encoding lib.Content}
    {memory : lib.Memory} (scratch : Scratch)
    (encoded : lib.encode image jpegOptions before.memory = (encoding, memory)) :
    (encode image jpegOptions scratch).Ends before
      (match encoding.fault with
        | none => .ok ()
        | some cause => .error (.fault cause))
      { before with memory, files := written before.files scratch encoding } := by
  unfold encode
  refine (Run.ends_look before).bind ?_
  have answered : Answered (fun memory => (.ok (lib.encode image jpegOptions memory).1,
      (lib.encode image jpegOptions memory).2)) before (.ok encoding) { before with memory } :=
    .intro (by rw [encoded])
  refine (Run.ends_ask (.encode image jpegOptions scratch.folder) answered).bind ?_
  refine (Run.ends_setFiles _ _).bind ?_
  cases encoding.fault with
  | none => exact Run.ends_pure () _
  | some cause => exact Run.ends_fail (.fault cause) _

theorem currentUmask_ends (before : World lib) :
    currentUmask.Ends before (.ok before.umask) before :=
  (Run.ends_setUmask 0 before).bind ((Run.ends_setUmask _ _).bind (Run.ends_pure _ _))

private theorem install_ends {permitted renamed : Files lib.Content}
    (allowed : before.files.permit scratch (.newFile before.umask) = .ok permitted)
    (moved : permitted.rename scratch path = .ok renamed) :
    (install scratch path).Ends before (.ok ()) { before with files := renamed } := by
  unfold install
  refine (currentUmask_ends before).bind ((Run.ends_look before).bind ?_)
  rw [allowed]
  refine (Run.ends_ofExcept (.ok permitted) before).bind ((Run.ends_setFiles _ _).bind ?_)
  rw [moved]
  exact (Run.ends_ofExcept (.ok renamed) _).bind (Run.ends_setFiles _ _)

private theorem install_ends_unmoved {permitted : Files lib.Content} {cause : Fault}
    (allowed : before.files.permit scratch (.newFile before.umask) = .ok permitted)
    (refused : permitted.rename scratch path = .error cause) :
    (install scratch path).Ends before (.error (.fault cause))
      { before with files := permitted } := by
  unfold install
  refine (currentUmask_ends before).bind ((Run.ends_look before).bind ?_)
  rw [allowed]
  refine (Run.ends_ofExcept (.ok permitted) before).bind ((Run.ends_setFiles _ _).bind ?_)
  rw [refused]
  exact (Run.ends_ofExcept (.error (.fault cause)) _).bind_error

private theorem install_ends_unpermitted {cause : Fault}
    (refused : before.files.permit scratch (.newFile before.umask) = .error cause) :
    (install scratch path).Ends before (.error (.fault cause)) before := by
  unfold install
  refine (currentUmask_ends before).bind ((Run.ends_look before).bind ?_)
  rw [refused]
  exact (Run.ends_ofExcept (.error (.fault cause)) _).bind_error

theorem newScratch_ends (given : Except Fault Scratch)
    (placed : before.files.scratch path.parent = given) :
    (Run.convertingFaults Kind.isSystem (.noPlace path.parent) (newScratch path.parent)).Ends before
      (given.mapError (Failure.ofFault Kind.isSystem (.noPlace path.parent))) before := by
  subst placed
  refine Run.Ends.convertingFaults _ Kind.isSystem (.noPlace path.parent) ?_
  exact (Run.ends_look before).bind (Run.ends_ofExcept _ before)

/-- After a fault the scratch file is taken away, and the fault is one of writing. -/
private theorem save_ends_unwritten {cause : Fault} {memory : lib.Memory}
    {left : Files lib.Content} (placed : before.files.scratch path.parent = .ok scratch)
    (written : (do encode image (options quality icc exif) scratch; install scratch path).Ends
      before (.error (.fault cause)) { before with memory, files := left })
    (cleared : left.remove scratch.place = before.files) :
    (save quality image path icc exif).Ends before
      (.error (Failure.ofFault Kind.isWriting (.notWritten path) cause))
      { before with memory } := by
  unfold save
  refine (newScratch_ends (.ok scratch) placed).bind (written.reify.bind ?_)
  refine ((Run.ends_look _).bind (Run.ends_setFiles _ _)).bind ?_
  simp only [cleared]
  exact Run.Ends.convertingFaults (.error cause) Kind.isWriting (.notWritten path)
    (Run.ends_fail _ _)

/-- The run that stores a picture ends as storing does, a fault becoming what its stage makes of
it. -/
theorem Stores.ends {given : Except (Stage × Fault) Unit} (plan : Plan) (input : Path)
    (stored : Stores quality image path icc exif before given after) :
    (save quality image path icc exif).Ends before
      ((given.map fun _ => path).mapError fun stopped =>
        stopped.1.failure plan input path stopped.2) after := by
  cases stored with
  | unplaced refused => exact (newScratch_ends _ refused).bind_error
  | @unencoded scratch encoding memory cause placed encoded failed =>
    have free := Files.node?_of_scratch placed
    refine save_ends_unwritten placed ?_ (remove_written free encoding)
    have ended := encode_ends scratch encoded
    rw [failed] at ended
    exact ended.bind_error
  | @lost scratch encoding memory placed encoded sound lost =>
    have free := Files.node?_of_scratch placed
    refine save_ends_unwritten placed ?_ (remove_written free encoding)
    have ended := encode_ends scratch encoded
    rw [sound] at ended
    refine ended.bind (install_ends_unpermitted ?_)
    simp only [written, lost, if_true, Files.remove_of_free before.files free]
    exact Files.permit_of_free free _
  | @unmoved scratch encoding memory cause placed encoded sound kept refused =>
    have free := Files.node?_of_scratch placed
    refine save_ends_unwritten placed ?_ (Files.remove_put_of_free before.files
      (.file encoding.content (.newFile before.umask)) free)
    have ended := encode_ends scratch encoded
    rw [sound] at ended
    refine ended.bind (install_ends_unmoved ?_ refused)
    simp only [written, kept]
    exact Files.permit_put_scratch free _ _ _
  | @stored scratch encoding memory place placed encoded sound kept found =>
    have free := Files.node?_of_scratch placed
    have ended := encode_ends scratch encoded
    rw [sound] at ended
    have installed := Files.rename_put_scratch free encoding.content (.newFile before.umask) found
    unfold save
    refine (newScratch_ends (.ok scratch) placed).bind ?_
    refine (ended.bind (install_ends ?_ installed)).reify.bind ?_
    · simp only [written, kept]
      exact Files.permit_put_scratch free _ _ _
    · exact (Run.ends_note _ _).bind (Run.ends_pure path _)

/-- What the encoder makes of a picture. -/
def encoding (quality : Int) (image : lib.Image) (icc exif : Option lib.Blob)
    (memory : lib.Memory) : Encoding lib.Content :=
  (lib.encode image (options quality icc exif) memory).1

end InkToScreen.Jpeg
