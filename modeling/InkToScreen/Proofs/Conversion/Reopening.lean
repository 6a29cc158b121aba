import InkToScreen.Proofs.Conversion.Repeat
import InkToScreen.Proofs.Files.Updates

namespace InkToScreen
variable {lib : Library}

/-- A library that opens what it has encoded, in the mode of the picture that it was given and
without the file going by itself, and whose transforms make pictures in screen colours. -/
structure Library.KeepsModes (lib : Library) : Prop where
  reopens : ∀ image options memory encoding left,
    lib.encode image options memory = (encoding, left) → encoding.fault = none →
      ∀ path later, ∃ opened, (lib.openImage path (some encoding.content) later).1 = .ok opened ∧
        (lib.header opened).mode = (lib.header image).mode ∧ lib.isFleeting opened = false
  transforms : ∀ image transform memory result left,
    lib.applyTransform image transform memory = (.ok (some result), left) →
      (lib.header result).mode = "RGB"

namespace Files
variable {α : Type} {files first second : Files α} {place : Place} {path : Path}

/-- A path that leads somewhere leads there in every tree with the same folders that holds something
at that place. -/
theorem SameFolders.locate (same : first.SameFolders second)
    (located : first.locate path = .ok place) (present : second.node? place ≠ none) :
    second.locate path = .ok place := by
  obtain ⟨accepted, walked⟩ := locate_eq_ok_iff.mp located
  refine locate_eq_ok_iff.mpr ⟨accepted, ?_⟩
  rw [← same.start]
  exact same.walk_of_present walked present

theorem sameFolders_remove_file {content : α} {permissions : Permissions}
    (held : files.node? place = some (.file content permissions)) :
    files.SameFolders (files.remove place) where
  home := rfl
  folder := by
    have below : place ≠ [] := by
      rintro rfl
      simp [node?, top] at held
    intro other bits
    by_cases same : other = place
    · subst other
      rw [node?_remove_self files below, held]
      simp
    · rw [node?_remove_other files same]

theorem readable?_of_held {content : α} {permissions : Permissions}
    (located : files.locate path = .ok place)
    (held : files.node? place = some (.file content permissions))
    (allowed : permissions.mayRead = true) : files.readable? path = some content := by
  rw [readable?, file?_eq_some_iff.mpr ⟨place, located, held⟩]
  simp [allowed]

end Files

section Modes
variable {plan : Plan} {picture : Input lib} {before after : World lib} {image result : lib.Image}
  {source target : lib.Profile} {intent : Intent} {warnings : List Notice}
  (keeps : lib.KeepsModes)
include keeps

namespace Plan

theorem Paints.mode (painted : Paints image source target intent before (.ok result) after) :
    (lib.header result).mode = "RGB" := by
  cases painted with
  | painted built applied =>
    cases applied with
    | intro asked => exact keeps.transforms _ _ _ _ _ asked

theorem Tries.mode {role : Role}
    (tried : plan.Tries role image source target before (.ok (result, intent)) warnings after) :
    (lib.header result).mode = "RGB" := by
  cases tried with
  | painted chosen painted => exact painted.mode keeps

theorem FallsBack.mode {kind : ProfileSource} {earlier : List Notice} {made : Rendering lib}
    (fallen : plan.FallsBack picture target kind earlier before (.ok made) after) :
    (lib.header made.image).mode = "RGB" := by
  cases fallen with
  | rendered loaded tried => exact tried.mode keeps

theorem Renders.mode {made : Rendering lib}
    (rendered : plan.Renders picture before (.ok made) after) :
    (lib.header made.image).mode = "RGB" := by
  cases rendered with
  | embedded prepared carried tried =>
    cases tried with
    | parsed parsed tried => exact tried.mode keeps
  | fallback prepared carried failed absorbed fallen => exact fallen.mode keeps
  | unprofiled prepared absent fallen => exact fallen.mode keeps

/-- What a picture is turned into is a picture in screen colours. -/
theorem Transforms.mode {made : Transformed lib}
    (transformed : plan.Transforms picture before (.ok made) after) :
    (lib.header made.image).mode = "RGB" := by
  cases transformed with
  | transformed rendered read => exact rendered.mode keeps

end Plan

/-- What a conversion stores opens as a picture in screen colours. -/
theorem Converter.Encodes.reopens {converter : Converter} {input : Path} {kind : ProfileSource}
    {content : lib.Content} (encodes : converter.Encodes input before kind content) (path : Path)
    (later : lib.Memory) :
    ∃ opened, (lib.openImage path (some content) later).1 = .ok opened ∧
      (lib.header opened).mode = "RGB" ∧ lib.isFleeting opened = false := by
  cases encodes with
  | intro opening inks transformed used encoded sound kept =>
    obtain ⟨opened, answered, mode, lasting⟩ :=
      keeps.reopens _ _ _ _ _ encoded sound path later
    exact ⟨opened, answered, mode.trans (transformed.mode keeps), lasting⟩

end Modes

section Folders
variable {before after : World lib}

/-- Opening a picture keeps the folders; what it may take away is the file that it has opened. -/
theorem Input.Opens.sameFolders {path : Path} {image : lib.Image}
    (opening : Input.Opens path before (.ok image) after) :
    before.files.SameFolders after.files := by
  have present := opening.present
  have leaves := opening.leaves
  generalize after.files = left at leaves
  cases leaves with
  | kept => exact .refl _
  | vanished asked fleeting located =>
    obtain ⟨⟨content, permissions⟩, found⟩ := Option.isSome_iff_exists.mp present
    obtain ⟨place, locatedToo, held⟩ := Files.file?_eq_some_iff.mp found
    rw [located] at locatedToo
    cases locatedToo
    exact Files.sameFolders_remove_file held

/-- A conversion keeps the folders. -/
theorem Converter.Course.sameFolders {converter : Converter} {input : Path} {stem : String}
    {result : Transformed lib}
    (taken : converter.Course input stem before (.converted result) after) :
    before.files.SameFolders after.files := by
  cases taken with
  | converted accepted opening inks transformed stored =>
    have made := transformed.sameSystem.files
    cases stored with
    | stored placed encoded sound kept found =>
      rw [made] at found
      simp only [made]
      exact opening.sameFolders.trans
        (Files.sameFolders_put_file _ _ _ (Files.isFolder_target found))

end Folders

namespace Converter
variable {first second : Converter} {input : Path} {stem again name : String}
  {before after : World lib}

/-- After a conversion with a result, a path that names its output file, by the output path or by
one that has led to it before, leads to a picture that has been encoded in this very conversion. -/
theorem Course.readable?_result {result : Transformed lib} {path : Path}
    (taken : first.Course input stem before (.converted result) after)
    (legible : before.umask.mayRead = false)
    (names : path = first.output stem ∨ before.files.SameFile (first.output stem) path) :
    ∃ content, first.Encodes input before result.source content ∧
      after.files.readable? path = some content := by
  obtain ⟨left, content, _, encodes, stored⟩ := taken.stores
  obtain ⟨located, held, _, _⟩ := stored
  have allowed : (Permissions.newFile before.umask).mayRead = true := by
    rw [Permissions.mayRead_newFile, legible, Bool.not_false]
  refine ⟨content, encodes, Files.readable?_of_held ?_ held allowed⟩
  rcases names with rfl | ⟨one, two, _⟩
  · exact located
  · -- the folders on the way are the same, and at the end there is a file again
    have same := taken.sameFolders
    have place := Files.place_of_locate located
    rw [← same.home, ← Files.place_of_locate one] at place
    subst place
    exact same.locate two (by simp [held])

/-- An accepted conversion whose input opens lastingly as a picture in other colours than process
inks finds nothing to do and changes nothing. -/
theorem convert_spares {content : lib.Content} {image : lib.Image}
    (accepted : second.settings.Accepts name)
    (read : before.files.readable? (.ofText again) = some content)
    (answered : (lib.openImage (.ofText again) (some content) before.memory).1 = .ok image)
    (other : (lib.header image).mode ≠ "CMYK") (lasting : lib.isFleeting image = false) :
    (second.convert again name before).result = .ok .probablyNotCmyk ∧
      (second.convert again name before).world.files = before.files := by
  cases asked : lib.openImage (.ofText again) (some content) before.memory with
  | mk given memory =>
    rw [asked] at answered
    subst answered
    rw [← read] at asked
    have opening := Input.Opens.opened (Files.namesFile_of_readable? read) (.intro asked)
    obtain ⟨returned, reached⟩ := (Course.spared accepted opening other).convert_ends
    refine ⟨returned, ?_⟩
    rw [reached]
    simp [Input.treeWith, lasting]

/-- An output file that is converted right after it was stored is found not to be in process inks
and is left alone, also where it has overwritten the input. -/
theorem convert_spares_result (keeps : lib.KeepsModes) (first second : Converter)
    (input stem again name : String) (before : World lib)
    (converted : ∃ source : ProfileSource,
      (first.convert input stem before).result = .ok source.status)
    (legible : before.umask.mayRead = false)
    (names : Path.ofText again = first.output stem ∨
      before.files.SameFile (first.output stem) (.ofText again))
    (accepted : second.settings.Accepts name) :
    (second.convert again name (first.convert input stem before).world).result =
        .ok .probablyNotCmyk ∧
      (second.convert again name (first.convert input stem before).world).world.files =
        (first.convert input stem before).world.files := by
  obtain ⟨source, returned⟩ := converted
  obtain ⟨verdict, after, taken⟩ := Course.total first (.ofText input) stem before
  rw [taken.convert_ends.1] at returned
  rw [taken.convert_ends.2]
  obtain ⟨result, rfl, _⟩ := Verdict.converted_of_result returned
  obtain ⟨content, encodes, read⟩ := taken.readable?_result legible names
  obtain ⟨image, answered, mode, lasting⟩ := encodes.reopens keeps (.ofText again) after.memory
  refine convert_spares accepted read answered ?_ lasting
  rw [mode]
  decide

end Converter

namespace Scripted

theorem library_keepsModes : library.KeepsModes where
  reopens image options memory encoding left encoded sound path later := by
    obtain ⟨rfl, rfl⟩ := encoded
    have saved : image.saveFault = none := sound
    simp only [encode, saved]
    exact ⟨_, rfl, rfl, rfl⟩
  transforms image transform memory result left applied := by
    simp only [library, scripted] at applied
    split at applied
    · cases applied
    · split at applied
      · cases applied
      · cases applied
        rfl

/-- A world with a picture that has the name of its own output file. -/
def replaceable : World library :=
  world [("in.jpg", .picture { mode := "CMYK" } 64), ("backstop.icc", .profile { name := "ink" } 64)]

/-- A picture that is overwritten by its own conversion is not converted once more. -/
theorem convert_spares_result_replaced :
    (converter.convert "in.jpg" "in" replaceable).result = .ok .cmykNoIcc ∧
      (converter.convert "./in.jpg" "in"
          (converter.convert "in.jpg" "in" replaceable).world).result = .ok .probablyNotCmyk ∧
      (converter.convert "./in.jpg" "in"
          (converter.convert "in.jpg" "in" replaceable).world).world.files =
        (converter.convert "in.jpg" "in" replaceable).world.files := by
  have returned : (converter.convert "in.jpg" "in" replaceable).result = .ok .cmykNoIcc := by
    decide +kernel
  exact ⟨returned, Converter.convert_spares_result library_keepsModes converter converter "in.jpg"
    "in" "./in.jpg" "in" replaceable ⟨.backstopNoEmbedded, returned⟩ (by decide)
    (.inl (by decide +kernel)) ⟨by decide, by decide +kernel⟩⟩

end Scripted
end InkToScreen
