import InkToScreen.Proofs.Conversion.Effect
import InkToScreen.Proofs.Files.Rooms

namespace InkToScreen.Jpeg
variable {lib : Library} {quality : Int} {image : lib.Image} {path : Path}
  {icc exif : Option lib.Blob} {before after : World lib}

/-- A picture can be saved at a path: its encoding is sound and the file it is written to stays
where it was made. -/
structure Savable (quality : Int) (image : lib.Image) (path : Path) (icc exif : Option lib.Blob)
    (before : World lib) : Prop where
  hosted : before.files.Hosts path.parent
  sound : (encoding quality image icc exif before.memory).fault = none
  kept : (encoding quality image icc exif before.memory).lost = false
  replaceable : before.files.Replaceable path

theorem encoding_eq {made : Encoding lib.Content} {memory : lib.Memory}
    (encoded : lib.encode image (options quality icc exif) before.memory = (made, memory)) :
    encoding quality image icc exif before.memory = made :=
  congrArg Prod.fst encoded

/-- Storing succeeds where the picture can be saved, and only there. -/
theorem Stores.savable_iff {given : Except (Stage × Fault) Unit}
    (stored : Stores quality image path icc exif before given after) :
    given = .ok () ↔ Savable quality image path icc exif before := by
  constructor
  · rintro rfl
    cases stored with
    | stored placed encoded sound kept found =>
      obtain rfl := encoding_eq encoded
      exact ⟨Files.exists_scratch_iff.mp ⟨_, placed⟩, sound, kept,
        Files.exists_target_iff.mp ⟨_, found⟩⟩
  · rintro ⟨hosted, sound, kept, replaceable⟩
    cases stored with
    | stored => rfl
    | unplaced refused =>
      obtain ⟨scratch, placed⟩ := Files.exists_scratch_iff.mpr hosted
      cases refused.symm.trans placed
    | unencoded placed encoded failed =>
      rw [encoding_eq encoded, failed] at sound
      cases sound
    | lost placed encoded whole lost =>
      rw [encoding_eq encoded, lost] at kept
      cases kept
    | unmoved placed encoded whole stays refused =>
      obtain ⟨place, found⟩ := Files.exists_target_iff.mpr replaceable
      have free := Files.node?_of_scratch placed
      cases refused.symm.trans (Files.rename_put_scratch free _ _ found)

/-- What a saved picture leaves at its path. -/
theorem Stores.storedAt (stored : Stores quality image path icc exif before (.ok ()) after) :
    Files.StoredAt path (encoding quality image icc exif before.memory).content
      (.newFile before.umask) before.files after.files := by
  cases stored with
  | stored placed encoded sound kept found =>
    obtain rfl := encoding_eq encoded
    exact Files.storedAt_put_target found _ _

/-- Saving at a path puts the whole encoding there, with the bits of a new file, or leaves the tree
as it was. It does the former exactly where the picture can be saved, and never changes the mask. -/
theorem save_all_or_nothing (quality : Int) (image : lib.Image) (output : String)
    (icc exif : Option lib.Blob) (before : World lib) :
    (save quality image (.ofText output) icc exif before).world.umask = before.umask ∧
      ((∃ path, (save quality image (.ofText output) icc exif before).result = .ok path) ↔
        Savable quality image (.ofText output) icc exif before) ∧
      (∀ path, (save quality image (.ofText output) icc exif before).result = .ok path →
        path = .ofText output ∧
          Files.StoredAt path (encoding quality image icc exif before.memory).content
            (.newFile before.umask) before.files
            (save quality image (.ofText output) icc exif before).world.files) ∧
      (∀ failure, (save quality image (.ofText output) icc exif before).result = .error failure →
        (save quality image (.ofText output) icc exif before).world.files = before.files) := by
  obtain ⟨given, after, stored⟩ := Stores.total quality image (.ofText output) icc exif before
  obtain ⟨returned, reached⟩ := stored.ends ⟨.ofText output, none, .relative⟩ (.ofText output)
  rw [returned, reached, ← stored.savable_iff]
  refine ⟨stored.umask, ?_⟩
  cases given with
  | error stopped =>
    refine ⟨?_, ?_, fun _ _ => stored.sameSystem.files⟩
    · constructor
      · rintro ⟨path, ⟨⟩⟩
      · rintro ⟨⟩
    · rintro path ⟨⟩
  | ok _ =>
    refine ⟨iff_of_true ⟨_, rfl⟩ rfl, ?_, ?_⟩
    · rintro path ⟨⟩
      exact ⟨rfl, stored.storedAt⟩
    · rintro failure ⟨⟩

end InkToScreen.Jpeg
