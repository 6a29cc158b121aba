import InkToScreen.Imaging.Headers
import InkToScreen.Proofs.Conversion.Twins
import InkToScreen.Proofs.Conversion.Unused
import InkToScreen.Proofs.Files.OutputNames

namespace InkToScreen
variable {lib : Library} {before after : World lib}

theorem Files.isSome_file?_of_readable? {Content : Type} {files : Files Content} {path : Path}
    (read : files.readable? path ≠ none) : (files.file? path).isSome = true := by
  rw [Option.isSome_iff_ne_none]
  intro missing
  exact read (by simp [readable?, missing])

theorem Input.Opens.present {path : Path} {image : lib.Image}
    (opening : Input.Opens path before (.ok image) after) :
    (before.files.file? path).isSome = true := by
  cases opening with
  | opened checked asked =>
    rw [Files.namesFile] at checked
    split at checked
    · cases checked
    · cases checked
    · cases checked
    · exact Except.ok.inj checked

section Profiles
variable {plan : Plan} {picture : Input lib} {path : Path} {profile : lib.Profile}

/-- A profile that has been opened was there to be read. -/
theorem Library.IsForgetful.present (forgetful : lib.IsForgetful)
    (opened : Answered (lib.openProfile path (before.files.readable? path)) before (.ok profile)
      after) : (before.files.file? path).isSome = true := by
  refine Files.isSome_file?_of_readable? fun unread => ?_
  rw [unread] at opened
  obtain ⟨cause, refused⟩ := forgetful.unreadable path before.memory
  cases opened with
  | intro asked =>
    rw [asked] at refused
    cases refused

namespace Plan

theorem Prepares.srgb_present {image : lib.Image} (forgetful : lib.IsForgetful)
    (prepared : plan.Prepares image before profile after) (asked : plan.srgb = some path) :
    (before.files.file? path).isSome = true := by
  obtain ⟨decoded, loaded, targeted⟩ := prepared
  rw [← loaded.sameSystem.files]
  simp only [LoadsTarget, asked] at targeted
  exact forgetful.present targeted

theorem Renders.srgb_present {made : Rendering lib} (forgetful : lib.IsForgetful)
    (rendered : plan.Renders picture before (.ok made) after) (asked : plan.srgb = some path) :
    (before.files.file? path).isSome = true := by
  cases rendered with
  | embedded prepared | fallback prepared | unprofiled prepared =>
    exact prepared.srgb_present forgetful asked

theorem FallsBack.backstop_present {target : lib.Profile} {kind : ProfileSource}
    {earlier : List Notice} {made : Rendering lib} (forgetful : lib.IsForgetful)
    (fallen : plan.FallsBack picture target kind earlier before (.ok made) after) :
    (before.files.file? plan.backstop).isSome = true := by
  cases fallen with
  | rendered loaded tried => exact forgetful.present loaded

theorem Renders.backstop_present {made : Rendering lib} (forgetful : lib.IsForgetful)
    (rendered : plan.Renders picture before (.ok made) after) (foreign : made.source ≠ .embedded) :
    (before.files.file? plan.backstop).isSome = true := by
  cases rendered with
  | embedded prepared carried tried => exact absurd rfl foreign
  | fallback prepared carried failed absorbed fallen =>
    rw [← (prepared.sameSystem.trans failed.sameSystem).files]
    exact fallen.backstop_present forgetful
  | unprofiled prepared absent fallen =>
    rw [← prepared.sameSystem.files]
    exact fallen.backstop_present forgetful

end Plan
end Profiles

namespace Converter
variable {converter : Converter} {input : Path} {stem text : String}

/-- What a conversion that succeeds has read was there, and it has stored a file at its output path,
where storing once more comes to the same. -/
structure Succeeds (converter : Converter) (input : Path) (stem : String)
    (source : ProfileSource) (before after : Files lib.Content) : Prop where
  input : (before.file? input).isSome = true
  srgb : ∀ path, converter.plan.srgb = some path → (before.file? path).isSome = true
  backstop : source ≠ .embedded → (before.file? converter.plan.backstop).isSome = true
  mirrors : before.Mirrors (converter.output stem) after
  alike : ∀ path, ¬ before.SameFile (converter.output stem) path →
    (before.file? path).isSome = true → before.ReadsAlike after path

theorem Course.succeeds {result : Transformed lib} (forgetful : lib.IsForgetful)
    (taken : converter.Course input stem before (.converted result) after) :
    converter.Succeeds input stem result.source before.files after.files := by
  cases taken with
  | converted accepted opening inks transformed stored =>
    have openedIn := opening.leaves.eq_of_lasting forgetful.lasting
    have sameFiles := transformed.sameSystem.files.trans openedIn
    cases stored with
    | stored placed encoded sound kept found =>
      rw [sameFiles] at placed found
      simp only [sameFiles]
      cases transformed with
      | transformed rendered read =>
        refine ⟨opening.present, ?_, ?_, ?_, ?_⟩
        · intro path asked
          rw [← openedIn]
          exact rendered.srgb_present forgetful asked
        · intro foreign
          rw [← openedIn]
          exact rendered.backstop_present forgetful foreign
        · have unlike := Files.target_unlike_scratch found
            (converter.settings.name?_outputName_ne stem)
          exact .stored placed (Files.scratch_put_file (Files.isFolder_target found) unlike placed)
            found
        · intro path apart present
          exact Files.readsAlike_put_target found apart present

theorem umask_convert (converter : Converter) (text stem : String) (before : World lib) :
    (converter.convert text stem before).world.umask = before.umask := by
  obtain ⟨verdict, after, taken⟩ := Course.total converter (.ofText text) stem before
  rw [taken.convert_ends.2]
  exact taken.umask

/-- A conversion is the same once more if, after it, all that it may read reads alike. -/
theorem repeats_of_alike (forgetful : lib.IsForgetful)
    (reached : (converter.convert text stem before).world = after)
    (mirrors : before.files.Mirrors (converter.output stem) after.files)
    (input : before.files.ReadsAlike after.files (.ofText text))
    (srgb : ∀ path, converter.plan.srgb = some path → before.files.ReadsAlike after.files path)
    (backstop : before.files.ReadsAlike after.files converter.plan.backstop) :
    (converter.convert text stem before).Agrees World.SameSystem
      (converter.convert text stem after) := by
  have sameUmask : before.umask = after.umask := by
    rw [← reached, umask_convert]
  obtain ⟨result, notices, calls, twins⟩ :=
    convert_steady forgetful mirrors input srgb backstop before after
      ⟨sameUmask, .inr ⟨rfl, rfl⟩⟩
  refine ⟨result, notices, calls, ?_, twins.umask.symm⟩
  -- the first world that the conversions end in is the one that the second began in
  rcases twins.files with same | ⟨_, same⟩
  · exact same.symm
  · rw [same, reached]

/-- With the picture's own profile, a conversion is the same once more whatever its backstop: the
input, which is known to read alike, may stand for it. -/
theorem repeats_of_embedded (forgetful : lib.IsForgetful)
    (reached : (converter.convert text stem before).world = after)
    (usable : (converter.convert text stem before).result = .ok .cmykWithUsableIcc)
    (mirrors : before.files.Mirrors (converter.output stem) after.files)
    (input : before.files.ReadsAlike after.files (.ofText text))
    (srgb : ∀ path, converter.plan.srgb = some path → before.files.ReadsAlike after.files path) :
    (converter.convert text stem before).Agrees World.SameSystem
      (converter.convert text stem after) := by
  obtain ⟨other, differ, stands⟩ :
      ∃ other, converter.DifferInBackstop other ∧ other.plan.backstop = .ofText text :=
    ⟨_, .intro converter converter.settings.backstop (.ofText text), rfl⟩
  have once := convert_eq_of_usable differ usable
  rw [once] at reached usable
  rw [← differ.output] at mirrors
  rw [← differ.srgb] at srgb
  rw [← stands] at input
  have agrees := repeats_of_alike forgetful reached mirrors (stands ▸ input) srgb input
  have again := convert_eq_of_usable differ.symm (agrees.result ▸ usable)
  rw [once, ← again]
  exact agrees

/-- Where the library forgets and the output is none of the files that a conversion reads, a second
one right after the first does the same and changes nothing. -/
theorem convert_repeats (forgetful : lib.IsForgetful) (converter : Converter)
    (input stem : String) (before : World lib)
    (notInput : ¬ before.files.SameFile (converter.output stem) (.ofText input))
    (notSrgb : ∀ path, converter.plan.srgb = some path →
      ¬ before.files.SameFile (converter.output stem) path)
    (notBackstop : ¬ before.files.SameFile (converter.output stem) converter.plan.backstop) :
    (converter.convert input stem before).Agrees World.SameSystem
      (converter.convert input stem (converter.convert input stem before).world) := by
  obtain ⟨verdict, after, taken⟩ := Course.total converter (.ofText input) stem before
  rw [taken.convert_ends.2]
  by_cases success : ∃ result, verdict = .converted result
  · obtain ⟨result, rfl⟩ := success
    have succeeds := taken.succeeds forgetful
    have inputAlike := succeeds.alike _ notInput succeeds.input
    have srgbAlike : ∀ path, converter.plan.srgb = some path →
        before.files.ReadsAlike after.files path :=
      fun path asked => succeeds.alike path (notSrgb path asked) (succeeds.srgb path asked)
    by_cases own : result.source = .embedded
    · have usable : (converter.convert input stem before).result = .ok .cmykWithUsableIcc := by
        rw [taken.convert_ends.1, Verdict.result, own]
        rfl
      exact repeats_of_embedded forgetful taken.convert_ends.2 usable succeeds.mirrors inputAlike
        srgbAlike
    · exact repeats_of_alike forgetful taken.convert_ends.2 succeeds.mirrors inputAlike srgbAlike
        (succeeds.alike _ notBackstop (succeeds.backstop own))
  · have leaves := taken.leaves fun result same => success ⟨result, same⟩
    have same := leaves.eq_of_lasting forgetful.lasting
    have alike (path : Path) : before.files.ReadsAlike after.files path := by
      rw [same]
      exact .refl _ _
    have mirrors : before.files.Mirrors (converter.output stem) after.files := by
      rw [same]
      exact .same _
    exact repeats_of_alike forgetful taken.convert_ends.2 mirrors (alike _)
      (fun path _ => alike path) (alike _)

end Converter

namespace Headers

theorem library_isForgetful (maxPixels : Int) : (library maxPixels).IsForgetful where
  openImage _ _ _ _ := rfl
  load _ _ _ := rfl
  builtinProfile _ _ := rfl
  parseProfile _ _ _ := rfl
  openProfile _ _ _ _ := rfl
  supportsIntent _ _ _ _ := rfl
  defaultIntent _ _ _ := rfl
  buildTransform _ _ _ _ _ _ := rfl
  applyTransform _ _ _ _ := rfl
  profileBytes _ _ _ := rfl
  encode _ _ _ _ := rfl
  lasting _ := rfl
  unreadable path memory := by
    by_cases nul : hasNul path.text = true
    · exact ⟨.reported .profile "embedded null character",
        by simp [openProfile, nul, refused, failed]⟩
    · exact ⟨.reported .profile "cannot open profile file",
        by simp [openProfile, nul, refused, failed]⟩

/-- A world with a picture in process inks and a backstop profile that it can be converted with. -/
def inked : World (library defaultMaxPixels) where
  files := ((Files.empty []).put ["in.tif"] (.file (.picture { mode := "CMYK" }) 0o644)).put
    ["backstop.icc"] (.file (.profile (.tables [1] "CMYK" 1)) 0o644)
  umask := .usualMask
  memory := ()

/-- Converted twice, the picture is the same as converted once. -/
theorem convert_repeats_inked :
    (Scripted.converter.convert "in.tif" "out" inked).result = .ok .cmykNoIcc ∧
    (Scripted.converter.convert "in.tif" "out" inked).Agrees World.SameSystem
      (Scripted.converter.convert "in.tif" "out"
        (Scripted.converter.convert "in.tif" "out" inked).world) := by
  have missing : inked.files.locate (Scripted.converter.output "out") =
      .error (.system .missing) := by
    decide +kernel
  have apart (path : Path) : ¬ inked.files.SameFile (Scripted.converter.output "out") path := by
    rintro ⟨one, _, _⟩
    rw [missing] at one
    cases one
  exact ⟨by decide +kernel, Converter.convert_repeats (library_isForgetful _) Scripted.converter
    "in.tif" "out" inked (apart _) (fun path _ => apart path) (apart _)⟩

end Headers
end InkToScreen
