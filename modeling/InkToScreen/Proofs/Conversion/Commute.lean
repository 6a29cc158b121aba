import InkToScreen.Proofs.Conversion.Repeat
import InkToScreen.Proofs.Files.CleanNames
import InkToScreen.Proofs.Files.Updates

/-! Conversions one after the other. A folder that was missing is at most a file afterwards, so what
one conversion stores does not change how another one ends. -/
namespace InkToScreen
variable {lib : Library} {α : Type}

section Faults
variable {Content : Type} {files : Files Content} {cause : Fault}

theorem Fault.isWriting_system (error : SystemError) :
    (Fault.system error).kind.isWriting = true := by
  rw [Kind.isWriting, isSystem_system, Bool.true_or]

theorem Files.isWriting_of_scratch_error {folder : Path}
    (refused : files.scratch folder = .error cause) : cause.kind.isWriting = true := by
  simp only [scratch] at refused
  split at refused
  · cases refused
    rfl
  · cases refused
    exact Fault.isWriting_system _
  · split at refused
    · cases refused
    · cases refused
      exact Fault.isWriting_system _

theorem Files.isWriting_of_rename_error {scratch : Scratch} {path : Path}
    (refused : files.rename scratch path = .error cause) : cause.kind.isWriting = true := by
  unfold rename at refused
  split at refused
  · cases refused
    rfl
  · cases refused
    exact Fault.isWriting_system _
  · split at refused
    · cases refused
      exact Fault.isWriting_system _
    · cases refused

end Faults

/-- From related worlds a steady run ends with one result, in related worlds again. -/
theorem Run.Steady.ends {related : World lib → World lib → Prop} {run : Run lib α}
    {here there after : World lib} {result : Except Failure α} (steady : run.Steady related)
    (worlds : related here there) (ended : run.Ends here result after) :
    ∃ afterward, run.Ends there result afterward ∧ related after afterward := by
  obtain ⟨same, _, _, last⟩ := steady here there worlds
  rw [ended.1] at same
  rw [ended.2] at last
  exact ⟨_, ⟨same.symm, rfl⟩, last⟩

section Beside
open World (Twins)
variable {here there after : World lib} {path other : Path}

theorem World.twins (umask : here.umask = there.umask) :
    Twins here.files there.files here there :=
  ⟨umask, .inr ⟨rfl, rfl⟩⟩

/-- The input opens in the same way where it reads alike. -/
theorem Input.Opens.twin {given : Except Fault lib.Image} (forgetful : lib.IsForgetful)
    (umask : here.umask = there.umask) (alike : here.files.ReadsAlike there.files path)
    (opening : Input.Opens path here given after) :
    ∃ again afterward, Input.Opens path there again afterward ∧
      again.mapError (fun cause => Failure.fault (Input.openingFault path cause)) =
        given.mapError fun cause => .fault (Input.openingFault path cause) := by
  obtain ⟨again, afterward, openingToo⟩ := Input.Opens.total path there
  obtain ⟨_, ended, _⟩ :=
    (Input.openImage_steady forgetful alike).ends (World.twins umask) opening.ends
  exact ⟨again, afterward, openingToo, (openingToo.ends.unique ended).1⟩

/-- A picture that is opened here is opened there, and nothing else is done. -/
theorem Input.Opens.twin_ok {image : lib.Image} (forgetful : lib.IsForgetful)
    (umask : here.umask = there.umask) (alike : here.files.ReadsAlike there.files path)
    (opening : Input.Opens path here (.ok image) after) :
    ∃ afterward, Input.Opens path there (.ok image) afterward ∧ after.umask = afterward.umask ∧
      after.files = here.files ∧ afterward.files = there.files ∧
        Input.ofImage path image afterward.files = .ofImage path image after.files := by
  obtain ⟨again, afterward, openingToo, same⟩ := opening.twin forgetful umask alike
  cases again with
  | error cause => cases same
  | ok imageToo =>
    obtain rfl := Except.ok.inj same
    have files := opening.leaves.eq_of_lasting forgetful.lasting
    have filesToo := openingToo.leaves.eq_of_lasting forgetful.lasting
    refine ⟨afterward, openingToo, ?_, files, filesToo, ?_⟩
    · rw [opening.umask, openingToo.umask, umask]
    · rw [files, filesToo]
      simp only [Input.ofImage, alike.content?]

/-- The way to screen colours is the same where the profiles that it may open read alike. -/
theorem Plan.Transforms.twin {plan : Plan} {image : lib.Image} {files : Files lib.Content}
    {given : Except (Stage × Fault) (Transformed lib)} (forgetful : lib.IsForgetful)
    (umask : here.umask = there.umask)
    (srgb : ∀ path, plan.srgb = some path → here.files.ReadsAlike there.files path)
    (backstop : here.files.ReadsAlike there.files plan.backstop) (output : Path)
    (transformed : plan.Transforms (.ofImage path image files) here given after) :
    ∃ again afterward, plan.Transforms (.ofImage path image files) there again afterward ∧
      again.mapError (fun stopped => stopped.1.failure plan path output stopped.2) =
        given.mapError fun stopped => stopped.1.failure plan path output stopped.2 := by
  obtain ⟨again, afterward, transformedToo⟩ :=
    Transforms.total plan (.ofImage path image files) there
  obtain ⟨_, ended, _⟩ := (toSrgb_steady forgetful _ srgb backstop).ends (World.twins umask)
    (transformed.ends output)
  exact ⟨again, afterward, transformedToo, ((transformedToo.ends output).unique ended).1⟩

/-- Storing ends alike: well in both cases, or with faults that come to the same. -/
inductive Jpeg.StoresAlike : Except (Stage × Fault) Unit → Except (Stage × Fault) Unit → Prop
  | same (given : Except (Stage × Fault) Unit) : StoresAlike given given
  | handled (one : stage.handles cause.kind = true) (two : stageToo.handles causeToo.kind = true) :
      StoresAlike (.error (stage, cause)) (.error (stageToo, causeToo))

/-- Beside an update of the tree, storing ends alike and updates the tree alike. What was refused
for a missing folder may be refused for a file in its place, but it is refused. -/
theorem Jpeg.Stores.beside {quality : Int} {image : lib.Image} {icc exif : Option lib.Blob}
    {given : Except (Stage × Fault) Unit} (forgetful : lib.IsForgetful)
    (umask : here.umask = there.umask) (updates : here.files.Updates other there.files)
    (unlike : ∀ number, other.name? ≠ some (Scratch.name number))
    (stored : Stores quality image path icc exif here given after) :
    ∃ again afterward, Stores quality image path icc exif there again afterward ∧
      StoresAlike given again ∧
        here.files.UpdatesAlike path there.files after.files afterward.files := by
  cases stored with
  | unplaced refused =>
    cases placed : there.files.scratch path.parent with
    | error cause =>
      exact ⟨_, _, .unplaced placed, .handled (Files.isWriting_of_scratch_error refused)
        (Files.isWriting_of_scratch_error placed), .same⟩
    | ok scratch =>
      rw [(updates.scratch_eq_ok_iff unlike).mp placed] at refused
      cases refused
  | unencoded placed encoded failed =>
    obtain ⟨left, encodedToo⟩ := forgetful.encodes encoded there.memory
    have placedToo := (updates.scratch_eq_ok_iff unlike).mpr placed
    exact ⟨_, _, .unencoded placedToo encodedToo failed, .same _, .same⟩
  | lost placed encoded sound lost =>
    obtain ⟨left, encodedToo⟩ := forgetful.encodes encoded there.memory
    have placedToo := (updates.scratch_eq_ok_iff unlike).mpr placed
    exact ⟨_, _, .lost placedToo encodedToo sound lost, .same _, .same⟩
  | @unmoved scratch encoding memory cause placed encoded sound kept refused =>
    obtain ⟨left, encodedToo⟩ := forgetful.encodes encoded there.memory
    have placedToo := (updates.scratch_eq_ok_iff unlike).mpr placed
    cases moved : (there.files.put scratch.place
        (.file encoding.content (.newFile there.umask))).rename scratch path with
    | error causeToo =>
      exact ⟨_, _, .unmoved placedToo encodedToo sound kept moved,
        .handled (Files.isWriting_of_rename_error refused)
          (Files.isWriting_of_rename_error moved), .same⟩
    | ok renamed =>
      -- a renaming that succeeds here would have found its target there
      obtain ⟨place, foundToo, _⟩ :=
        Files.target_of_rename_put_scratch (Files.node?_of_scratch placedToo) moved
      have found := updates.target_eq_ok_iff.mp foundToo
      rw [Files.rename_put_scratch (Files.node?_of_scratch placed) _ _ found] at refused
      cases refused
  | stored placed encoded sound kept found =>
    obtain ⟨left, encodedToo⟩ := forgetful.encodes encoded there.memory
    have placedToo := (updates.scratch_eq_ok_iff unlike).mpr placed
    have foundToo := updates.target_eq_ok_iff.mpr found
    refine ⟨_, _, .stored placedToo encodedToo sound kept foundToo, .same _, ?_⟩
    simp only [umask]
    exact .stored found

namespace Converter
variable {converter : Converter} {stem text : String} {verdict : Verdict lib}

/-- The files that a conversion may read. -/
def sources (converter : Converter) (input : String) : List Path :=
  .ofText input :: converter.plan.backstop :: converter.plan.srgb.toList

/-- What a conversion makes of the end of its attempt. -/
def concluded (text : String) : Except Failure Status → Except Failure Status
  | .ok status => .ok status
  | .error failure => match report? text failure with
    | none => .error failure
    | some _ => .ok .fatalError

theorem convert_ends_concluded {given : Except Failure Status}
    (attempted : (converter.attempt (.ofText text) stem).Ends here given after) :
    (converter.convert text stem).Ends here (concluded text given) after := by
  unfold convert
  refine attempted.reify.bind ?_
  cases given with
  | ok status => exact Run.ends_pure status after
  | error failure =>
    simp only [concluded]
    cases report? text failure with
    | none => exact Run.ends_fail failure after
    | some notice => exact (Run.ends_note notice after).bind (Run.ends_pure _ after)

/-- Conversions whose attempts end alike return the same. -/
theorem Course.result_eq {again : Verdict lib} {afterward : World lib}
    (taken : converter.Course (.ofText text) stem here verdict after)
    (takenToo : converter.Course (.ofText text) stem there again afterward)
    (same : again.attempted converter.plan (.ofText text) (converter.output stem) =
      verdict.attempted converter.plan (.ofText text) (converter.output stem)) :
    again.result = verdict.result := by
  have concludes := (taken.convert_ends.unique (convert_ends_concluded taken.attempt_ends)).1
  have concludesToo :=
    (takenToo.convert_ends.unique (convert_ends_concluded takenToo.attempt_ends)).1
  rw [concludes, concludesToo, same]

/-- Where no file goes by itself, a conversion updates the tree at its output path or leaves it. -/
theorem Course.updates {input : Path} (lasting : ∀ image, lib.isFleeting image = false)
    (taken : converter.Course input stem here verdict after) :
    here.files.Updates (converter.output stem) after.files := by
  by_cases success : ∃ result, verdict = .converted result
  · obtain ⟨result, rfl⟩ := success
    cases taken with
    | converted accepted opening inks transformed stored =>
      have sameFiles :=
        transformed.sameSystem.files.trans (opening.leaves.eq_of_lasting lasting)
      cases stored with
      | stored placed encoded sound kept found =>
        rw [sameFiles] at found
        simp only [sameFiles]
        exact .stored found
  · have leaves := taken.leaves fun result same => success ⟨result, same⟩
    rw [leaves.eq_of_lasting lasting]
    exact .same

/-- The input opens and gets to screen colours in the same way where all sources read alike. -/
theorem transforms_twin {image : lib.Image} {between made : World lib}
    {given : Except (Stage × Fault) (Transformed lib)} (forgetful : lib.IsForgetful)
    (umask : here.umask = there.umask)
    (alike : ∀ path ∈ converter.sources text, here.files.ReadsAlike there.files path)
    (opening : Input.Opens (.ofText text) here (.ok image) between)
    (transformed : converter.plan.Transforms (.ofImage (.ofText text) image between.files) between
      given made) (output : Path) :
    ∃ betweenToo again madeToo, Input.Opens (.ofText text) there (.ok image) betweenToo ∧
      converter.plan.Transforms (.ofImage (.ofText text) image betweenToo.files) betweenToo again
        madeToo ∧
      again.mapError (fun stopped =>
          stopped.1.failure converter.plan (.ofText text) output stopped.2) =
        given.mapError (fun stopped =>
          stopped.1.failure converter.plan (.ofText text) output stopped.2) ∧
      made.umask = madeToo.umask ∧ made.files = here.files ∧ madeToo.files = there.files := by
  obtain ⟨betweenToo, openingToo, umasks, files, filesToo, sameInput⟩ :=
    opening.twin_ok forgetful umask (alike _ (by simp [sources]))
  rw [← files, ← filesToo] at alike
  obtain ⟨again, madeToo, transformedToo, same⟩ := transformed.twin forgetful umasks
    (fun path asked => alike path (by simp [sources, asked]))
    (alike _ (by simp [sources])) output
  have system := transformed.sameSystem
  have systemToo := transformedToo.sameSystem
  rw [← sameInput] at transformedToo
  refine ⟨betweenToo, again, madeToo, openingToo, transformedToo, same, ?_,
    system.files.trans files, systemToo.files.trans filesToo⟩
  rw [system.umask, systemToo.umask, umasks]

/-- What the input is turned into here is stored there as well, or is not stored there either. -/
theorem stores_beside {image : lib.Image} {between made : World lib} {result : Transformed lib}
    {given : Except (Stage × Fault) Unit} (forgetful : lib.IsForgetful)
    (umask : here.umask = there.umask) (updates : here.files.Updates other there.files)
    (unlike : ∀ number, other.name? ≠ some (Scratch.name number))
    (alike : ∀ path ∈ converter.sources text, here.files.ReadsAlike there.files path)
    (opening : Input.Opens (.ofText text) here (.ok image) between)
    (transformed : converter.plan.Transforms (.ofImage (.ofText text) image between.files) between
      (.ok result) made)
    (stored : Jpeg.Stores converter.quality result.image (converter.output stem)
      (some result.profile) (lib.header image).exif made given after) :
    ∃ betweenToo madeToo again afterward, Input.Opens (.ofText text) there (.ok image) betweenToo ∧
      converter.plan.Transforms (.ofImage (.ofText text) image betweenToo.files) betweenToo
        (.ok result) madeToo ∧
      Jpeg.Stores converter.quality result.image (converter.output stem) (some result.profile)
        (lib.header image).exif madeToo again afterward ∧
      Jpeg.StoresAlike given again ∧
        here.files.UpdatesAlike (converter.output stem) there.files after.files
          afterward.files := by
  obtain ⟨betweenToo, again, madeToo, openingToo, transformedToo, same, umasks, files, filesToo⟩ :=
    transforms_twin forgetful umask alike opening transformed (converter.output stem)
  cases again with
  | error stopped => cases same
  | ok resultToo =>
    obtain rfl := Except.ok.inj same
    rw [← files, ← filesToo] at updates
    obtain ⟨givenToo, afterward, storedToo, ends, updated⟩ :=
      stored.beside forgetful umasks updates unlike
    rw [files, filesToo] at updated
    exact ⟨betweenToo, madeToo, givenToo, afterward, openingToo, transformedToo, storedToo, ends,
      updated⟩

/-- Beside an update that none of its sources meets, a conversion takes a course with the same
result and updates the tree alike. -/
theorem Course.beside (forgetful : lib.IsForgetful) (umask : here.umask = there.umask)
    (updates : here.files.Updates other there.files)
    (unlike : ∀ number, other.name? ≠ some (Scratch.name number))
    (apart : ∀ path ∈ converter.sources text, ¬ here.files.Meets other path)
    (taken : converter.Course (.ofText text) stem here verdict after) :
    ∃ again afterward, converter.Course (.ofText text) stem there again afterward ∧
      again.result = verdict.result ∧ here.files.UpdatesAlike (converter.output stem) there.files
        after.files afterward.files := by
  have alike (path : Path) (source : path ∈ converter.sources text) :
      here.files.ReadsAlike there.files path :=
    updates.readsAlike (apart path source)
  cases taken with
  | refused faulty => exact ⟨_, _, .refused faulty, rfl, .same⟩
  | unopened accepted opening =>
    obtain ⟨again, afterward, openingToo, same⟩ :=
      opening.twin forgetful umask (alike _ (by simp [sources]))
    cases again with
    | ok image => cases same
    | error cause =>
      refine ⟨_, _, .unopened accepted openingToo, ?_, ?_⟩
      · refine (Course.unopened accepted opening).result_eq (.unopened accepted openingToo) ?_
        exact congrArg Except.error (Except.error.inj same)
      · rw [opening.leaves.eq_of_lasting forgetful.lasting,
          openingToo.leaves.eq_of_lasting forgetful.lasting]
        exact .same
  | spared accepted opening other =>
    obtain ⟨afterward, openingToo, _, files, filesToo, _⟩ :=
      opening.twin_ok forgetful umask (alike _ (by simp [sources]))
    refine ⟨_, _, .spared accepted openingToo other, rfl, ?_⟩
    rw [files, filesToo]
    exact .same
  | untransformed accepted opening inks transformed =>
    obtain ⟨betweenToo, again, afterward, openingToo, transformedToo, same, _, files, filesToo⟩ :=
      transforms_twin forgetful umask alike opening transformed (converter.output stem)
    cases again with
    | ok result => cases same
    | error stopped =>
      have takenToo := Course.untransformed accepted openingToo inks transformedToo
      refine ⟨_, _, takenToo, ?_, ?_⟩
      · refine (Course.untransformed accepted opening inks transformed).result_eq takenToo ?_
        exact congrArg Except.error (Except.error.inj same)
      · rw [files, filesToo]
        exact .same
  | unstored accepted opening inks transformed stored =>
    obtain ⟨_, _, _, _, openingToo, transformedToo, storedToo, ends, updated⟩ :=
      stores_beside forgetful umask updates unlike alike opening transformed stored
    cases ends with
    | same =>
      exact ⟨_, _, .unstored accepted openingToo inks transformedToo storedToo, rfl, updated⟩
    | handled one two =>
      refine ⟨_, _, .unstored accepted openingToo inks transformedToo storedToo, ?_, updated⟩
      rw [Verdict.result, Verdict.result, if_pos one, if_pos two]
  | converted accepted opening inks transformed stored =>
    obtain ⟨_, _, _, _, openingToo, transformedToo, storedToo, ends, updated⟩ :=
      stores_beside forgetful umask updates unlike alike opening transformed stored
    cases ends with
    | same =>
      exact ⟨_, _, .converted accepted openingToo inks transformedToo storedToo, rfl, updated⟩

/-- Beside another conversion whose output is none of its sources, a conversion returns what it
returns without, and updates the tree alike. -/
theorem convert_beside (forgetful : lib.IsForgetful) (first second : Converter)
    (input stem : String) {inputToo stemToo : String} {before : World lib}
    (apart : ∀ path ∈ second.sources inputToo, ¬ before.files.Meets (first.output stem) path) :
    (second.convert inputToo stemToo (first.convert input stem before).world).result =
        (second.convert inputToo stemToo before).result ∧
      before.files.UpdatesAlike (second.output stemToo) (first.convert input stem before).world.files
        (second.convert inputToo stemToo before).world.files
        (second.convert inputToo stemToo (first.convert input stem before).world).world.files := by
  obtain ⟨_, between, taken⟩ := Course.total first (.ofText input) stem before
  obtain ⟨_, after, takenToo⟩ := Course.total second (.ofText inputToo) stemToo before
  obtain ⟨_, afterward, again, same, updated⟩ := takenToo.beside forgetful taken.umask.symm
    (taken.updates forgetful.lasting) (first.settings.name?_outputName_ne stem) apart
  rw [taken.convert_ends.2, again.convert_ends.1, again.convert_ends.2, takenToo.convert_ends.1,
    takenToo.convert_ends.2]
  exact ⟨same, updated⟩

/-- Where the library forgets and neither output path meets what the other conversion may read or
writes, two conversions return the same, and come to the same tree, in either order. -/
theorem convert_commutes (forgetful : lib.IsForgetful) (first second : Converter)
    (input stem inputToo stemToo : String) (before : World lib)
    (outputs : ¬ before.files.Meets (first.output stem) (second.output stemToo))
    (apart : ∀ path ∈ second.sources inputToo, ¬ before.files.Meets (first.output stem) path)
    (apartToo : ∀ path ∈ first.sources input, ¬ before.files.Meets (second.output stemToo) path) :
    (first.convert input stem (second.convert inputToo stemToo before).world).result =
        (first.convert input stem before).result ∧
      (second.convert inputToo stemToo (first.convert input stem before).world).result =
        (second.convert inputToo stemToo before).result ∧
      (second.convert inputToo stemToo (first.convert input stem before).world).world.files.SameTree
        (first.convert input stem (second.convert inputToo stemToo before).world).world.files := by
  obtain ⟨same, updated⟩ := convert_beside forgetful second first inputToo stemToo apartToo
  obtain ⟨sameToo, updatedToo⟩ := convert_beside forgetful first second input stem apart
  exact ⟨same, sameToo, updated.commute updatedToo outputs⟩

end Converter
end Beside

namespace Headers

/-- A converter of low quality. -/
def rough : Converter :=
  .ofSettings .usual (some ⟨.ofText "backstop.icc", none, .perceptual⟩) (some 10)

/-- A conversion into a folder that has the name of the other one's output fails before that output
is there, for want of a folder, and after it, when a file stands in its place. -/
theorem convert_commutes_inked :
    (Scripted.converter.convert "in.tif" "out"
        (rough.convert "in.tif" "out.jpg/deep" inked).world).result = .ok .cmykNoIcc ∧
      (rough.convert "in.tif" "out.jpg/deep"
        (Scripted.converter.convert "in.tif" "out" inked).world).result = .ok .fatalError ∧
      (rough.convert "in.tif" "out.jpg/deep"
        (Scripted.converter.convert "in.tif" "out" inked).world).world.files.SameTree
          (Scripted.converter.convert "in.tif" "out"
            (rough.convert "in.tif" "out.jpg/deep" inked).world).world.files := by
  have outputs : ¬ inked.files.Meets (Scripted.converter.output "out")
      (rough.output "out.jpg/deep") :=
    Files.not_meets_of_place_ne (by decide +kernel)
  have apart (path : Path) (source : path ∈ rough.sources "in.tif") :
      ¬ inked.files.Meets (Scripted.converter.output "out") path := by
    refine Files.not_meets_of_place_ne ?_
    revert path
    decide +kernel
  have apartToo (path : Path) (source : path ∈ Scripted.converter.sources "in.tif") :
      ¬ inked.files.Meets (rough.output "out.jpg/deep") path := by
    refine Files.not_meets_of_place_ne ?_
    revert path
    decide +kernel
  have returned : (Scripted.converter.convert "in.tif" "out" inked).result = .ok .cmykNoIcc := by
    decide +kernel
  have returnedToo : (rough.convert "in.tif" "out.jpg/deep" inked).result = .ok .fatalError := by
    decide +kernel
  obtain ⟨same, sameToo, tree⟩ := Converter.convert_commutes (library_isForgetful _)
    Scripted.converter rough "in.tif" "out" "in.tif" "out.jpg/deep" inked outputs apart apartToo
  exact ⟨same.trans returned, sameToo.trans returnedToo, tree⟩

end Headers
end InkToScreen
