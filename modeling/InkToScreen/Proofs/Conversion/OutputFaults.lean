import InkToScreen.Proofs.Conversion.Reports
import InkToScreen.Proofs.Files.Rooms

namespace InkToScreen
variable {lib : Library} {α : Type}

/-- A folder on the way to a path has the character that no path may hold in its name; two dots undo
the name before them. -/
def Files.HasNulFolder (files : Files α) (path : Path) : Prop :=
  (path.parent.place files.home).any hasNul = true

instance (files : Files α) (path : Path) : Decidable (files.HasNulFolder path) :=
  inferInstanceAs (Decidable (_ = true))

theorem Files.hasNulFolder_congr {first second : Files α} (same : first.home = second.home)
    (path : Path) : first.HasNulFolder path ↔ second.HasNulFolder path := by
  rw [HasNulFolder, HasNulFolder, same]

theorem Input.Opens.home {path : Path} {before after : World lib} {given : Except Fault lib.Image}
    (opening : Opens path before given after) : after.files.home = before.files.home := by
  cases opening with
  | blocked checked | absent checked => rfl
  | refused checked asked => rw [asked.sameSystem.files]
  | opened checked asked =>
    simp only [treeWith, asked.sameSystem.files]
    split
    · split <;> rfl
    · rfl

namespace Jpeg
variable {quality : Int} {image : lib.Image} {path : Path} {icc exif : Option lib.Blob}
  {before after : World lib} {stage : Stage} {cause : Fault}

theorem not_hasNulFolder_of_scratch {files : Files lib.Content} {scratch : Scratch}
    (placed : files.scratch path.parent = .ok scratch) : ¬ files.HasNulFolder path := by
  intro held
  obtain ⟨clean, _⟩ := Files.exists_scratch_iff.mp ⟨scratch, placed⟩
  rw [Files.hasNul_inFolder, held] at clean
  cases clean

/-- What a fault of storing becomes: that of a folder's name stays as it is, and any other one that
writing a file may report is a failure of encoding. -/
theorem Stores.failure_cases (plan : Plan) (input : Path)
    (stored : Stores quality image path icc exif before (.error (stage, cause)) after) :
    before.files.HasNulFolder path ∧ stage.failure plan input path cause = .fault .nulInPath ∨
      ¬ before.files.HasNulFolder path ∧
        ((∃ error, stage.failure plan input path cause = .conversion error ∧
            error.reason = .encodeFailed) ∨
          stage.failure plan input path cause = .fault cause ∧ cause.kind.isWriting = false) := by
  -- from the scratch file on, every stage but the first catches both kinds
  have written (made : ¬ before.files.HasNulFolder path) (cause : Fault) :
      ¬ before.files.HasNulFolder path ∧
        ((∃ error, Stage.writing.failure plan input path cause = .conversion error ∧
            error.reason = .encodeFailed) ∨
          Stage.writing.failure plan input path cause = .fault cause ∧
            cause.kind.isWriting = false) := by
    refine ⟨made, ?_⟩
    cases caught : cause.kind.isWriting with
    | true =>
      exact .inl ⟨.notWritten path cause, by simp [Stage.failure, Failure.ofFault, caught], rfl⟩
    | false => exact .inr ⟨by simp [Stage.failure, Failure.ofFault, caught], rfl⟩
  cases stored with
  | unplaced refused =>
    rcases Files.scratch_error_cases refused with ⟨held, rfl⟩ | ⟨clean, isSystem⟩
    · exact .inl ⟨held, rfl⟩
    · refine .inr ⟨Bool.eq_false_iff.mp clean, .inl ⟨.noPlace path.parent cause, ?_, rfl⟩⟩
      simp [Stage.failure, Failure.ofFault, isSystem]
  | unencoded placed | lost placed | unmoved placed =>
    exact .inr (written (not_hasNulFolder_of_scratch placed) _)

/-- How saving ends where storing fails. -/
theorem Stores.save_cases
    (stored : Stores quality image path icc exif before (.error (stage, cause)) after) :
    before.files.HasNulFolder path ∧
        (save quality image path icc exif before).result = .error (.fault .nulInPath) ∨
      ¬ before.files.HasNulFolder path ∧
        ((∃ error, (save quality image path icc exif before).result = .error (.conversion error) ∧
            error.reason = .encodeFailed) ∨
          (save quality image path icc exif before).result = .error (.fault cause) ∧
            cause.kind.isWriting = false) := by
  -- the failure depends on neither plan nor input
  have failed : (save quality image path icc exif before).result =
      .error (stage.failure ⟨path, none, .relative⟩ path path cause) :=
    (stored.ends ⟨path, none, .relative⟩ path).1
  rw [failed]
  simpa using stored.failure_cases ⟨path, none, .relative⟩ path

/-- A fault of the system or of a value is reported as a failure of encoding where no folder has the
character in its name. -/
theorem Stores.reports_iff
    (stored : Stores quality image path icc exif before (.error (stage, cause)) after)
    (caught : cause.kind.isWriting = true) :
    (∃ error, (save quality image path icc exif before).result = .error (.conversion error) ∧
        error.reason = .encodeFailed) ↔
      ¬ before.files.HasNulFolder path := by
  rcases stored.save_cases with ⟨held, failed⟩ | ⟨clean, reported | ⟨_, uncaught⟩⟩
  · rw [failed]
    refine iff_of_false ?_ (not_not_intro held)
    rintro ⟨error, ⟨⟩, _⟩
  · exact iff_of_true reported clean
  · rw [caught] at uncaught
    cases uncaught

theorem save_eq_error_of_nulFolder (quality : Int) (image : lib.Image) (path : Path)
    (icc exif : Option lib.Blob) (before : World lib) (held : before.files.HasNulFolder path) :
    (save quality image path icc exif before).result = .error (.fault .nulInPath) := by
  obtain ⟨given, after, stored⟩ := Stores.total quality image path icc exif before
  cases given with
  | ok _ =>
    cases stored with
    | stored placed => exact absurd held (not_hasNulFolder_of_scratch placed)
  | error stopped =>
    rcases stored.save_cases with ⟨_, failed⟩ | ⟨clean, _⟩
    · exact failed
    · exact absurd held clean

end Jpeg

namespace Converter
variable {converter : Converter} {input : Path} {stem text : String} {before after : World lib}
  {stage : Stage} {cause : Fault}

/-- A fault of making the scratch file or of writing it is one of storing, in a tree with the same
working directory. -/
theorem Course.stores_of_late (late : stage = .placing ∨ stage = .writing)
    (taken : converter.Course input stem before (.stopped stage cause) after) :
    ∃ image icc exif made, made.files.home = before.files.home ∧
      Jpeg.Stores converter.quality image (converter.output stem) icc exif made
        (.error (stage, cause)) after := by
  cases taken with
  | unopened => simp at late
  | untransformed accepted opening inks transformed =>
    obtain ⟨notPlacing, notWriting⟩ := transformed.stops.1
    exact absurd late (not_or.mpr ⟨notPlacing, notWriting⟩)
  | unstored accepted opening inks transformed stored =>
    refine ⟨_, _, _, _, ?_, stored⟩
    rw [transformed.sameSystem.files, opening.home]

/-- A conversion gives a reason with the notice that the failure of its attempt becomes, and with no
other. -/
theorem exists_reason_iff {failure : Failure} {reason : Reason}
    (attempted : (converter.attempt (.ofText text) stem before).result = .error failure) :
    (∃ notice ∈ (converter.convert text stem before).notices, notice.reason? = some reason) ↔
      ∃ notice, report? text failure = some notice ∧ notice.reason? = some reason := by
  have mild {notice : Notice}
      (early : notice ∈ (converter.attempt (.ofText text) stem before).notices) :
      notice.reason? ≠ some reason := by
    intro stated
    exact attempt_mild converter (.ofText text) stem before notice early
      (Notice.line_of_reason stated).1
  rw [convert_notices]
  simp only [attempted, List.mem_append, Option.mem_toList]
  constructor
  · rintro ⟨notice, early | reported, stated⟩
    · exact absurd stated (mild early)
    · exact ⟨notice, reported, stated⟩
  · rintro ⟨notice, reported, stated⟩
    exact ⟨notice, .inr reported, stated⟩

/-- A conversion that stops after the transform, when the scratch file is made or written, blames
its input exactly where a folder of the output has the character in its name. -/
theorem StopsAt.blames_input_iff (late : stage = .placing ∨ stage = .writing)
    (stops : converter.StopsAt (.ofText text) stem before stage cause) :
    (∃ notice ∈ (converter.convert text stem before).notices,
        notice.reason? = some .inputUnreadable) ↔
      before.files.HasNulFolder (converter.output stem) := by
  obtain ⟨after, taken⟩ := stops
  obtain ⟨image, icc, exif, made, home, stored⟩ := taken.stores_of_late late
  rw [exists_reason_iff taken.attempt_ends.1, ← Files.hasNulFolder_congr home]
  rcases stored.failure_cases converter.plan (.ofText text) with
    ⟨held, same⟩ | ⟨clean, ⟨error, same, reason⟩ | ⟨same, uncaught⟩⟩
  · rw [same]
    exact iff_of_true ⟨.unusableInput .nulInPath, rfl, rfl⟩ held
  · rw [same]
    refine iff_of_false ?_ clean
    rintro ⟨notice, ⟨⟩, stated⟩
    cases reason.symm.trans (Option.some.inj stated)
  · rw [same]
    refine iff_of_false ?_ clean
    rintro ⟨notice, reported, _⟩
    cases (report?_of_not_isReported uncaught).symm.trans reported

end Converter

/-- A fault of the output is one of encoding, unless a folder of it has the character that no path
may hold in its name: that fault goes through and is blamed on the input. -/
theorem output_faults_blamed (quality : Int) (image : lib.Image) (output : String)
    (icc exif : Option lib.Blob) (converter : Converter) (text stem : String)
    (before : World lib) :
    (∀ stage cause after,
        Jpeg.Stores quality image (.ofText output) icc exif before (.error (stage, cause)) after →
          cause.kind.isWriting = true →
            ((∃ error, (Jpeg.save quality image (.ofText output) icc exif before).result =
                .error (.conversion error) ∧ error.reason = .encodeFailed) ↔
              ¬ before.files.HasNulFolder (.ofText output))) ∧
      (before.files.HasNulFolder (.ofText output) →
        (Jpeg.save quality image (.ofText output) icc exif before).result =
          .error (.fault .nulInPath)) ∧
      (∀ stage cause, converter.StopsAt (.ofText text) stem before stage cause →
        stage = .placing ∨ stage = .writing →
          ((∃ notice ∈ (converter.convert text stem before).notices,
              notice.reason? = some .inputUnreadable) ↔
            before.files.HasNulFolder (converter.output stem))) :=
  ⟨fun _ _ _ stored caught => stored.reports_iff caught,
    Jpeg.save_eq_error_of_nulFolder quality image (.ofText output) icc exif before,
    fun _ _ stops late => stops.blames_input_iff late⟩

namespace Scripted

def plain : Image where
  mode := "CMYK"

/-- A conversion to a folder with the character in its name stops where the scratch file is made. -/
theorem stopsAt_nul_folder :
    converter.StopsAt (.ofText "in.tif") "a\x00/b" (holding plain) .placing .nulInPath := by
  have isFile : (holding plain).files.namesFile (.ofText "in.tif") = .ok true := by decide +kernel
  have picture : (holding plain).files.readable? (.ofText "in.tif") =
      some (.picture plain 64) := by
    decide +kernel
  have backstop : (holding plain).files.readable? converter.plan.backstop =
      some (.profile { name := "ink" } 64) := by
    decide +kernel
  have opening : Input.Opens (.ofText "in.tif") (holding plain) (.ok plain) (holding plain) :=
    .opened isFile (.intro (by rw [picture]; rfl))
  have loaded : Answered (library.openProfile converter.plan.backstop
      ((holding plain).files.readable? converter.plan.backstop)) (holding plain)
      (.ok { name := "ink" }) (holding plain) :=
    .intro (by rw [backstop]; rfl)
  have transformed : converter.plan.Transforms
      (.ofImage (.ofText "in.tif") plain (holding plain).files) (holding plain) (.ok _)
      (holding plain) :=
    .transformed (.unprofiled ⟨holding plain, Answered.intro rfl, Answered.intro rfl⟩ rfl
      (.rendered loaded (.painted (.wanted (.intro rfl)) (.painted (.intro rfl) (.intro rfl)))))
      (.intro rfl)
  have refused : (holding plain).files.scratch (converter.output "a\x00/b").parent =
      .error .nulInPath := by
    decide +kernel
  exact ⟨_, .unstored ⟨by decide, by decide⟩ opening rfl transformed (.unplaced refused)⟩

/-- There the input is blamed, although the transform was over. -/
theorem convert_blames_input_for_nul_folder :
    converter.StopsAt (.ofText "in.tif") "a\x00/b" (holding plain) .placing .nulInPath ∧
      ∃ notice ∈ (converter.convert "in.tif" "a\x00/b" (holding plain)).notices,
        notice.reason? = some .inputUnreadable := by
  have held : (holding plain).files.HasNulFolder (converter.output "a\x00/b") := by
    decide +kernel
  obtain ⟨_, _, blamed⟩ := output_faults_blamed 90 plain "a\x00/b" none none converter "in.tif"
    "a\x00/b" (holding plain)
  exact ⟨stopsAt_nul_folder, (blamed _ _ stopsAt_nul_folder (.inl rfl)).mpr held⟩

/-- Neither does saving turn every fault of the system or of a value into one of its own, nor is the
input spared for all that fails after the transform. -/
theorem not_output_faults_blamed :
    ¬ (∀ (output : String) (cause : Fault),
        (Jpeg.save 90 plain (.ofText output) none none (holding plain)).result =
          .error (.fault cause) → cause.kind.isWriting = false) ∧
      ¬ (∀ (stem : String) (stage : Stage) (cause : Fault),
        converter.StopsAt (.ofText "in.tif") stem (holding plain) stage cause →
          stage = .placing ∨ stage = .writing →
            ∀ notice ∈ (converter.convert "in.tif" stem (holding plain)).notices,
              notice.reason? ≠ some .inputUnreadable) := by
  constructor
  · intro spared
    have failed : (Jpeg.save 90 plain (.ofText "a\x00/b") none none (holding plain)).result =
        .error (.fault .nulInPath) := by
      decide +kernel
    cases spared _ _ failed
  · intro spared
    have held : (holding plain).files.HasNulFolder (converter.output "a\x00/b") := by
      decide +kernel
    obtain ⟨notice, given, blamed⟩ :=
      (stopsAt_nul_folder.blames_input_iff (.inl rfl)).mpr held
    exact spared _ _ _ stopsAt_nul_folder (.inl rfl) notice given blamed

end Scripted
end InkToScreen
