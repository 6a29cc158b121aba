import InkToScreen.Proofs.Conversion.Decision
import InkToScreen.Proofs.Conversion.Mild
import InkToScreen.Proofs.Conversion.StepsOfCourse
import InkToScreen.Proofs.Conversion.Transcripts
import InkToScreen.Proofs.Files.CleanNames
import InkToScreen.Proofs.Files.NamedFiles
import InkToScreen.Proofs.Files.Updates
import InkToScreen.Proofs.Run.Agree

namespace InkToScreen.Input
variable {lib : Library} {α : Type}

/-- What becomes of a fault with which the library answers the opening: two kinds are put in words
of this program. -/
inductive Reworded (path : Path) (cause : Fault) : Fault → Prop
  | unrecognized (kind : cause.kind = .unidentified) : Reworded path cause (.unrecognized path)
  | oversized (kind : cause.kind = .bomb) : Reworded path cause (.oversized path cause.message)
  | unchanged (known : cause.kind ≠ .unidentified) (small : cause.kind ≠ .bomb) :
      Reworded path cause cause

/-- What the work on a picture sees: what its header says, and the size of the file if the file is
still there. -/
structure Describes (path : Path) (picture : lib.Image) (content : lib.Content)
    (input : Input lib) : Prop where
  path : input.path = path
  image : input.image = picture
  width : input.width = (lib.header picture).width
  height : input.height = (lib.header picture).height
  mode : input.mode = (lib.header picture).mode
  interpretation : input.interpretation = .ofMode (lib.header picture).mode
  inks : input.isCmyk = true ↔ (lib.header picture).mode = "CMYK"
  profiled : ∀ bytes, input.profile = some bytes ↔
    (lib.header picture).icc = some bytes ∧ lib.isEmpty bytes = false
  unprofiled : input.profile = none ↔
    ∀ bytes, (lib.header picture).icc = some bytes → lib.isEmpty bytes = true
  exif : input.exif = (lib.header picture).exif
  size : input.size = if lib.isFleeting picture then none else some (lib.size content)

/-- How work on an input comes out. A fault before the work leaves the files alone and gives no
notice, and without a file the library is not even called. -/
inductive Serves (path : Path) (work : Input lib → Run lib α) (before : World lib) :
    Outcome lib α → Prop
  | absent (lacks : before.files.Lacks path) :
      Serves path work before ⟨.error (.fault (.absent path)), before, [], []⟩
  | blocked (blocks : before.files.Blocks path code) :
      Serves path work before ⟨.error (.fault (.system ⟨code, [path.text]⟩)), before, [], []⟩
  | refused (found : before.files.file? path = some (content, permissions))
      (asked : Answered (lib.openImage path (before.files.readable? path)) before (.error cause)
        after)
      (reworded : Reworded path cause fault) :
      Serves path work before ⟨.error (.fault fault), after, [], [.openImage path]⟩
  | opened {image : lib.Image} (found : before.files.file? path = some (content, permissions))
      (asked : Answered (lib.openImage path (before.files.readable? path)) before (.ok image)
        between)
      (begun : begins = { between with files := treeWith path image before.files })
      (describes : Describes path image content input) :
      Serves path work before
        { work input begins with
          notices := input.notice :: (work input begins).notices
          calls := .openImage path :: ((work input begins).calls ++ [.close .input image]) }

variable {path : Path} {image : lib.Image} {content : lib.Content} {permissions : Permissions}
  {before between after : World lib} {cause fault : Fault} {input : Input lib}
  {work : Input lib → Run lib α} {outcome : Outcome lib α}

section Faults

theorem reworded_iff : Reworded path cause fault ↔ fault = openingFault path cause := by
  unfold openingFault
  constructor
  · rintro (kind | kind | ⟨known, small⟩)
    · rw [kind]
    · rw [kind]
    · split
      · exact absurd ‹_› known
      · exact absurd ‹_› small
      · rfl
  · rintro rfl
    split
    · exact .unrecognized ‹_›
    · exact .oversized ‹_›
    · exact .unchanged ‹_› ‹_›

/-- A fault in words of this program is one of a value. -/
theorem Reworded.kind_eq (reworded : Reworded path cause fault) :
    fault.kind =
      if cause.kind = .unidentified ∨ cause.kind = .bomb then .value else cause.kind := by
  cases reworded with
  | unrecognized kind => rw [if_pos (.inl kind)]; rfl
  | oversized kind => rw [if_pos (.inr kind)]; rfl
  | unchanged known small => rw [if_neg (not_or.mpr ⟨known, small⟩)]

end Faults

section Headers

/-- The file of a picture is found as long as the picture is not fleeting. -/
theorem content?_treeWith {files : Files lib.Content}
    (found : files.file? path = some (content, permissions)) :
    (treeWith path image files).content? path =
      if lib.isFleeting image then none else some content := by
  obtain ⟨place, located, held⟩ := Files.file?_eq_some_iff.mp found
  unfold treeWith
  by_cases fleeting : lib.isFleeting image = true
  · have below : place ≠ [] := Files.ne_nil_of_notFolder (by rw [Files.isFolder, held])
    have gone : (files.remove place).file? path = none := by
      rw [Option.eq_none_iff_forall_ne_some]
      rintro ⟨other, bits⟩ again
      obtain ⟨there, reached, stored⟩ := Files.file?_eq_some_iff.mp again
      -- a path leads to one place only, with the file there and without it
      have same : there = place :=
        (Files.place_of_locate reached).trans (Files.place_of_locate located).symm
      rw [same, Files.node?_remove_self files below] at stored
      cases stored
    simp only [fleeting, if_true, located, Files.content?, gone, Option.map_none]
  · simp only [fleeting, Bool.false_eq_true, if_false, Files.content?, found, Option.map_some]

theorem describes_ofImage {files : Files lib.Content}
    (found : files.file? path = some (content, permissions)) :
    Describes path image content (ofImage path image (treeWith path image files)) where
  path := rfl
  image := rfl
  width := rfl
  height := rfl
  mode := rfl
  interpretation := rfl
  inks := Converter.isCmyk_ofImage
  profiled _ := profile_eq_some_iff
  unprofiled := profile_eq_none_iff
  exif := rfl
  size := by
    change ((treeWith path image files).content? path).map lib.size = _
    rw [content?_treeWith found]
    split
    · rfl
    · rfl

/-- There is one input that a picture can be described by. -/
theorem Describes.unique {other : Input lib} (one : Describes path image content input)
    (two : Describes path image content other) : input = other := by
  obtain ⟨_, _, _, _, _, _, profile, _, _⟩ := input
  obtain ⟨_, _, _, _, _, _, profileToo, _, _⟩ := other
  have profiles : profile = profileToo :=
    Option.ext fun bytes => (one.profiled bytes).trans (two.profiled bytes).symm
  cases one.path.trans two.path.symm
  cases one.image.trans two.image.symm
  cases one.width.trans two.width.symm
  cases one.height.trans two.height.symm
  cases one.mode.trans two.mode.symm
  cases one.interpretation.trans two.interpretation.symm
  cases one.exif.trans two.exif.symm
  cases one.size.trans two.size.symm
  rw [profiles]

end Headers

section Outcomes

theorem notices_openImage (path : Path) (before : World lib) :
    (openImage path before).notices = [] :=
  (openImage_silent path _).notices_eq_nil before

/-- An opening that fails ends everything. -/
theorem use_eq_of_error (work : Input lib → Run lib α)
    (opening : Opens path before (.error cause) after) :
    use path work before = ⟨.error (.fault (openingFault path cause)), after, [],
      (openImage path before).calls⟩ := by
  have ended : (use path work).Ends before _ after := use_ends_error opening
  have failed := opening.ends.1
  refine Outcome.Agrees.eq ⟨ended.1, ?_, Run.calls_bind_error failed _, ended.2⟩
  exact (Run.notices_bind_error failed _).trans (notices_openImage path before)

/-- Work on a picture that has been opened is left as it is, but for what is said and called around
it. -/
theorem use_eq_of_ok (work : Input lib → Run lib α)
    (opening : Opens path before (.ok image) between)
    (checked : before.files.namesFile path = .ok true) :
    use path work before =
      let outcome := work (ofImage path image between.files) between
      { outcome with
        notices := (ofImage path image between.files).notice :: outcome.notices
        calls := .openImage path :: (outcome.calls ++ [.close .input image]) } := by
  have ended : (use path work).Ends before _ _ := use_ends opening ⟨rfl, rfl⟩
  refine Outcome.Agrees.eq ⟨ended.1, ?_, ?_, ended.2⟩
  · refine (Run.notices_bind opening.ends _).trans ?_
    rw [notices_openImage, Run.notices_ensuring_close]
    rfl
  · refine (Run.calls_bind opening.ends _).trans ?_
    rw [calls_openImage checked, Run.calls_ensuring_close]
    rfl

end Outcomes

theorem Serves.use_eq (serves : Serves path work before outcome) :
    use path work before = outcome := by
  cases serves with
  | absent lacks =>
    have checked := lacks.namesFile
    rw [use_eq_of_error work (.absent checked), calls_openImage_of_not_file (by simp [checked])]
    rfl
  | blocked blocks =>
    have checked := blocks.namesFile
    rw [use_eq_of_error work (.blocked checked), calls_openImage_of_not_file (by simp [checked]),
      openingFault_system]
  | refused found asked reworded =>
    have checked := Files.namesFile_of_file? found
    rw [use_eq_of_error work (.refused checked asked), calls_openImage checked,
      reworded_iff.mp reworded]
  | opened found asked begun describes =>
    have checked := Files.namesFile_of_file? found
    rw [use_eq_of_ok work (.opened checked asked) checked]
    subst begun
    simp only [asked.sameSystem.files, describes.unique (describes_ofImage found)]

theorem Serves.total (path : Path) (work : Input lib → Run lib α) (before : World lib) :
    ∃ outcome, Serves path work before outcome := by
  rcases before.files.lacks_or_blocks_or_file path with lacks | ⟨code, blocks⟩ | ⟨file, found⟩
  · exact ⟨_, .absent lacks⟩
  · exact ⟨_, .blocked blocks⟩
  · obtain ⟨given, after, asked⟩ :=
      Answered.total (lib.openImage path (before.files.readable? path)) before
    cases given with
    | error cause => exact ⟨_, .refused found asked (reworded_iff.mpr rfl)⟩
    | ok image => exact ⟨_, .opened found asked rfl (describes_ofImage found)⟩

/-- Work on an input comes to the failure of opening it, told by its cause, or to what the work on
the open picture comes to, with the picture closed last. -/
theorem use_eq_iff_serves (text : String) (work : Input lib → Run lib α) (before : World lib)
    (outcome : Outcome lib α) :
    (use (.ofText text) work before = outcome ↔ Serves (.ofText text) work before outcome) ∧
      (hasNul text = true → before.files.Lacks (.ofText text)) ∧
      (Fault.absent (.ofText text)).kind = .missing ∧
      ∀ cause fault, Reworded (.ofText text) cause fault → fault.kind =
        if cause.kind = .unidentified ∨ cause.kind = .bomb then .value else cause.kind := by
  refine ⟨⟨?_, Serves.use_eq⟩, fun held => .nul ?_, rfl, fun _ _ => Reworded.kind_eq⟩
  · rintro rfl
    obtain ⟨outcome, serves⟩ := Serves.total (.ofText text) work before
    rwa [serves.use_eq]
  · rw [Path.hasNul_text_ofText, held]

end InkToScreen.Input
