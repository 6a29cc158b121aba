import InkToScreen.Proofs.Conversion.Effect
import InkToScreen.Proofs.Conversion.StepsOfCourse
import InkToScreen.Proofs.Files.LastNames
import InkToScreen.Proofs.Files.OutputNames
import InkToScreen.Proofs.Settings.CaseMixtures

namespace InkToScreen
variable {lib : Library}

/-- A path goes through a folder and ends with a name that is neither empty nor dots. -/
structure Path.Joins (path folder : Path) (name : String) : Prop where
  parent : path.parent = folder
  last : path.name? = some name
  nonempty : name ≠ ""
  notDot : name ≠ "."
  notDots : name ≠ ".."

/-- The folder of the file that a call has the encoder write to. -/
def Call.folder? : Call lib → Option Place
  | .encode _ _ folder => some folder
  | _ => none

theorem Call.folder?_eq_none {call : Call lib} (other : call.isEncode = false) :
    call.folder? = none := by
  cases call with
  | encode => cases other
  | _ => rfl

/-- What has been stored under a name in the folder that a path leads to was encoded into a file in
that folder, as far as no links come between, and nothing else has changed. -/
inductive Files.Lands (folder : Path) (name : String) (calls : List (Call lib))
    (before after : Files lib.Content) : Prop
  | intro (located : before.locate folder = .ok here) (isFolder : before.isFolder here = true)
      (written : calls.filterMap Call.folder? = [folder.place before.home])
      (beside : before.Unlinked → calls.filterMap Call.folder? = [here])
      (stored : after = before.put (here ++ [name]) (.file content permissions))

namespace Settings

/-- The last name of an output path. -/
def lastName (settings : Settings) (stem : String) : String :=
  Text.last stem ++ "." ++ settings.extension

theorem noSlash_extension (settings : Settings) : '/' ∉ settings.extension.toList := by
  have known : Text.lower settings.extension ∈ jpegExtensions := by
    simpa [isJpegExtension] using settings.extension_jpeg
  intro inside
  have letter := ((Text.lower_mem_iff isSmall_of_mem_jpegExtensions).mp known).letters '/' inside
  exact absurd letter (by decide)

/-- An output path joins the folder of its stem and a last name, whatever the stem ends with. -/
theorem output_joins (settings : Settings) (stem : String) :
    (Path.ofText (settings.outputName stem)).Joins (.ofText (Text.folder stem))
      (settings.lastName stem) := by
  obtain ⟨start, c, ends, _, notDot, _⟩ := exists_concat_of_isJpegExtension settings.extension_jpeg
  have chars : (settings.lastName stem).toList =
      (Text.last stem).toList ++ '.' :: start ++ [c] := by
    simp [lastName, String.toList_append, ends]
  -- the last character is no dot, and there is another one before it
  have other {dots : String} (short : dots.toList.getLast? ∈ [none, some '.']) :
      settings.lastName stem ≠ dots := by
    rintro rfl
    rw [chars, List.getLast?_concat] at short
    simp [notDot] at short
  have step : Path.isStep (settings.lastName stem).toList = true := by
    rw [chars]
    simp [Path.isStep, List.append_eq_singleton_iff]
  have noSlash : '/' ∉ (settings.lastName stem).toList := by
    simp [lastName, String.toList_append, Text.noSlash_last, settings.noSlash_extension]
  have whole : settings.outputName stem = Text.folder stem ++ settings.lastName stem := by
    rw [lastName, ← String.append_assoc, ← String.append_assoc, Text.folder_append_last]
    rfl
  have path := Path.ofText_append (Text.toList_folder_cases stem) noSlash step
  rw [← whole] at path
  refine ⟨?_, ?_, other (by decide), other (by decide), other (by decide)⟩
  · rw [path, Path.parent, List.dropLast_concat]
  · rw [path, Path.name?, List.getLast?_concat]

example : Path.ofText (usual.outputName "a//..") = ⟨.relative, ["a", "...jpg"]⟩ := by
  decide

end Settings

section Stores
variable {files : Files lib.Content} {path folder : Path} {name : String} {scratch : Scratch}
  {calls : List (Call lib)}

/-- What is encoded into a scratch file and replaces what the path names lands in the folder of the
path. -/
theorem Files.lands_of_target {place : Place} (joins : path.Joins folder name)
    (made : files.scratch path.parent = .ok scratch) (found : files.target path = .ok place)
    (encodes : calls.filterMap Call.folder? = [scratch.folder]) (content : lib.Content)
    (permissions : Permissions) :
    files.Lands folder name calls (files.put place (.file content permissions)) := by
  obtain ⟨here, last, located, isFolder, isLast, rfl⟩ := locate_parent_of_target found
  obtain rfl := Option.some.inj (isLast.symm.trans joins.last)
  rw [joins.parent] at located made
  rw [folder_of_scratch made] at encodes
  refine .intro located isFolder encodes (fun unlinked => ?_) rfl
  rw [encodes, unlinked.place_of_locate located]

theorem Jpeg.Stores.lands {quality : Int} {image : lib.Image} {icc exif : Option lib.Blob}
    {before after : World lib} (joins : path.Joins folder name)
    (stored : Stores quality image path icc exif before (.ok ()) after)
    (encodes : ∀ scratch, before.files.scratch path.parent = .ok scratch →
      calls.filterMap Call.folder? = [scratch.folder]) :
    before.files.Lands folder name calls after.files := by
  cases stored with
  | stored placed encoded sound kept found =>
    exact Files.lands_of_target joins placed found (encodes _ placed) _ _

end Stores

namespace Converter
variable {converter : Converter} {stem text : String} {before after : World lib}
  {verdict : Verdict lib}

/-- With a result, the tree of a conversion is the one that it is answerable for but for the file
that lands in the folder of the stem; without one it is that tree. -/
theorem Course.lands (taken : converter.Course (.ofText text) stem before verdict after) :
    ∃ left, Input.Leaves (.ofText text) before left ∧
      ((∃ result, verdict = .converted result) →
        left.Lands (.ofText (Text.folder stem)) (converter.settings.lastName stem)
          (converter.convert text stem before).calls after.files) ∧
      ((∀ result, verdict ≠ .converted result) → after.files = left) := by
  by_cases success : ∃ result, verdict = .converted result
  · obtain ⟨result, rfl⟩ := success
    cases taken with
    | @converted image between _ made _ accepted opening inks transformed stored =>
      refine ⟨made.files, ?_, fun _ => stored.lands (converter.settings.output_joins stem) ?_,
        fun unconverted => absurd rfl (unconverted result)⟩
      · rw [transformed.sameSystem.files]
        exact opening.leaves
      · intro scratch placed
        rw [← Call.filterMap_filter_isEncode fun _ => Call.folder?_eq_none,
          convert_encodes_once accepted opening inks transformed placed]
        rfl
  · have unconverted : ∀ result, verdict ≠ .converted result :=
      fun result same => success ⟨result, same⟩
    exact ⟨after.files, taken.leaves unconverted, fun converted => absurd converted success,
      fun _ => rfl⟩

/-- The output path joins the folder of the stem and the last name of the stem with the extension;
what is saved there was encoded into a file in that folder, and nothing else changes. -/
theorem output_lands (converter : Converter) (stem input : String) (quality : Int)
    (image : lib.Image) (icc exif : Option lib.Blob) (before : World lib) :
    (converter.output stem).Joins (.ofText (Text.folder stem))
        (converter.settings.lastName stem) ∧
      ('/' ∉ stem.toList → (converter.output stem).parent.text = ".") ∧
      (∀ path, (Jpeg.save quality image (converter.output stem) icc exif before).result = .ok path →
        path = converter.output stem ∧
          before.files.Lands (.ofText (Text.folder stem)) (converter.settings.lastName stem)
            (Jpeg.save quality image (converter.output stem) icc exif before).calls
            (Jpeg.save quality image (converter.output stem) icc exif before).world.files) ∧
      (∀ failure,
        (Jpeg.save quality image (converter.output stem) icc exif before).result = .error failure →
          (Jpeg.save quality image (converter.output stem) icc exif before).world.files =
            before.files) ∧
      ∃ left, Input.Leaves (.ofText input) before left ∧
        ((∃ source : ProfileSource,
          (converter.convert input stem before).result = .ok source.status) →
            left.Lands (.ofText (Text.folder stem)) (converter.settings.lastName stem)
              (converter.convert input stem before).calls
              (converter.convert input stem before).world.files) ∧
        ((∀ source : ProfileSource,
          (converter.convert input stem before).result ≠ .ok source.status) →
            (converter.convert input stem before).world.files = left) := by
  have joins := converter.settings.output_joins stem
  obtain ⟨given, saved, stored⟩ :=
    Jpeg.Stores.total quality image (converter.output stem) icc exif before
  obtain ⟨result, reached⟩ := stored.ends converter.plan (.ofText input)
  refine ⟨joins, fun noSlash => ?_, fun path => ?_, fun failure => ?_, ?_⟩
  · refine (congrArg Path.text joins.parent).trans ?_
    rw [Text.folder_eq_empty noSlash]
    decide
  · rw [result, reached]
    intro succeeded
    cases given with
    | error stopped => cases succeeded
    | ok _ =>
      refine ⟨(Except.ok.inj succeeded).symm, stored.lands joins fun scratch placed => ?_⟩
      exact congrArg (List.filterMap Call.folder?) (Jpeg.calls_save placed)
  · rw [result, reached]
    intro failed
    cases given with
    | error stopped => exact stored.sameSystem.files
    | ok _ => cases failed
  · obtain ⟨verdict, after, taken⟩ := Course.total converter (.ofText input) stem before
    obtain ⟨returned, ended⟩ := taken.convert_ends
    obtain ⟨left, leaves, lands, same⟩ := taken.lands
    rw [returned, ended]
    refine ⟨left, leaves, ?_, fun failed => same ?_⟩
    · rintro ⟨source, succeeded⟩
      obtain ⟨made, converted, _⟩ := Verdict.converted_of_result succeeded
      exact lands ⟨made, converted⟩
    · rintro made rfl
      exact failed made.source rfl

end Converter
end InkToScreen
