import InkToScreen.Proofs.Files.Beside

namespace InkToScreen.Files
variable {α : Type} {files : Files α} {path : Path}

/-- On its way a path has come to a location, with one more name to follow from there. -/
structure Faces (files : Files α) (path : Path) (here : Place) (part : String) : Prop where
  clean : hasNul path.text = false
  short : path.text.utf8ByteSize < pathBytesBound
  reached : ∃ above rest, path.parts = above ++ part :: rest ∧
    files.walk (files.start path) above = .ok here

/-- There is no file that a path names. -/
inductive Lacks (files : Files α) (path : Path) : Prop
  | nul (held : hasNul path.text = true)
  | missing (faces : files.Faces path here part)
      (folder : files.node? here = some (.folder permissions))
      (search : permissions.maySearch = true) (down : part ≠ "..")
      (short : part.utf8ByteSize ≤ maxNameBytes) (free : files.node? (here ++ [part]) = none)
  | gone (faces : files.Faces path here part) (free : files.node? here = none)
  | below (faces : files.Faces path here part)
      (file : files.node? here = some (.file content permissions))
  | unlike (located : files.locate path = .ok place)
      (notFile : ∀ content permissions, files.node? place ≠ some (.file content permissions))

/-- The system does not let a path be followed to its end, be there a file or not. -/
inductive Blocks (files : Files α) (path : Path) : SystemCode → Prop
  | longText (clean : hasNul path.text = false)
      (long : pathBytesBound ≤ path.text.utf8ByteSize) : Blocks files path .nameTooLong
  | denied (faces : files.Faces path here part)
      (folder : files.node? here = some (.folder permissions))
      (search : permissions.maySearch = false) : Blocks files path .denied
  | longName (faces : files.Faces path here part)
      (folder : files.node? here = some (.folder permissions))
      (search : permissions.maySearch = true) (down : part ≠ "..")
      (long : maxNameBytes < part.utf8ByteSize) : Blocks files path .nameTooLong

section Checks
variable {here : Place} {part : String}

theorem walk_append_of_step_error {start : Place} {above rest : List String} {code : SystemCode}
    (walked : files.walk start above = .ok here) (stopped : files.step here part = .error code) :
    files.walk start (above ++ part :: rest) = .error code := by
  simp only [walk] at walked ⊢
  rw [List.foldlM_append, walked]
  change files.step here part >>= _ = _
  rw [stopped]
  rfl

/-- A walk that fails has come to a location from which one name leads no further. -/
theorem exists_step_error {start : Place} {parts : List String} {code : SystemCode}
    (failed : files.walk start parts = .error code) :
    ∃ above part rest here, parts = above ++ part :: rest ∧ files.walk start above = .ok here ∧
      files.step here part = .error code := by
  induction parts generalizing start with
  | nil => cases failed
  | cons first rest ih =>
    cases stepped : files.step start first with
    | error other =>
      have stopped : files.walk start ([] ++ first :: rest) = .error other :=
        walk_append_of_step_error rfl stepped
      cases stopped.symm.trans failed
      exact ⟨[], first, rest, start, rfl, rfl, stepped⟩
    | ok next =>
      have onward : files.walk next rest = .error code := by
        rw [walk, List.foldlM_cons, stepped] at failed
        exact failed
      obtain ⟨above, part, more, here, rfl, walked, stopped⟩ := ih onward
      exact ⟨first :: above, part, more, here, rfl, walk_cons_eq_ok_iff.mpr ⟨next, stepped, walked⟩,
        stopped⟩

theorem Faces.locate_eq {code : SystemCode} (faces : files.Faces path here part)
    (stopped : files.step here part = .error code) :
    files.locate path = .error (.system code) := by
  obtain ⟨clean, short, above, rest, parts, walked⟩ := faces
  have accepted := acceptText_eq_ok_iff.mpr ⟨clean, short⟩
  have failed : files.walk (files.start path) (above ++ part :: rest) = .error code :=
    walk_append_of_step_error walked stopped
  unfold locate
  rw [accepted, parts, failed]
  rfl

theorem Lacks.namesFile (lacks : files.Lacks path) : files.namesFile path = .ok false := by
  cases lacks with
  | nul held =>
    have located : files.locate path = .error .nul := by
      unfold locate acceptText
      rw [held]
      rfl
    simp [Files.namesFile, file?, located]
  | @missing here part _ faces folder search down short free =>
    have stopped : files.step here part = .error .missing := by
      simp [step, folder, search, down, Nat.not_lt.mpr short, isFree, free]
    simp [Files.namesFile, faces.locate_eq stopped]
  | @gone here part faces free =>
    have stopped : files.step here part = .error .missing := by simp [step, free]
    simp [Files.namesFile, faces.locate_eq stopped]
  | @below here part _ _ faces file =>
    have stopped : files.step here part = .error .notDirectory := by simp [step, file]
    simp [Files.namesFile, faces.locate_eq stopped]
  | @unlike place located notFile =>
    have none : files.file? path = none := by
      rw [Option.eq_none_iff_forall_ne_some]
      rintro ⟨content, permissions⟩ named
      obtain ⟨there, reached, held⟩ := file?_eq_some_iff.mp named
      obtain rfl := Except.ok.inj (reached.symm.trans located)
      exact notFile content permissions held
    simp [Files.namesFile, located, none]

theorem Blocks.namesFile {code : SystemCode} (blocks : files.Blocks path code) :
    files.namesFile path = .error ⟨code, [path.text]⟩ := by
  cases blocks with
  | longText clean long =>
    have located : files.locate path = .error (.system .nameTooLong) := by
      unfold locate acceptText
      rw [clean, if_pos long]
      rfl
    simp [Files.namesFile, located]
  | @denied here part _ faces folder search =>
    have stopped : files.step here part = .error .denied := by simp [step, folder, search]
    simp [Files.namesFile, faces.locate_eq stopped]
  | @longName here part _ faces folder search down long =>
    have stopped : files.step here part = .error .nameTooLong := by
      simp [step, folder, search, down, long]
    simp [Files.namesFile, faces.locate_eq stopped]

theorem namesFile_of_file? {file : α × Permissions} (found : files.file? path = some file) :
    files.namesFile path = .ok true := by
  obtain ⟨there, located, _⟩ := file?_eq_some_iff.mp found
  simp [Files.namesFile, located, found]

theorem Faces.lacks_or_blocks {code : SystemCode} (faces : files.Faces path here part)
    (stopped : files.step here part = .error code) :
    files.Lacks path ∨ files.Blocks path code := by
  unfold step at stopped
  cases held : files.node? here with
  | none => exact .inl (.gone faces held)
  | some node =>
    cases node with
    | file content permissions => exact .inl (.below faces held)
    | folder permissions =>
      rw [held] at stopped
      cases search : permissions.maySearch with
      | false =>
        simp only [search, Bool.not_false, if_true] at stopped
        cases stopped
        exact .inr (.denied faces held search)
      | true =>
        simp only [search, Bool.not_true, Bool.false_eq_true, if_false] at stopped
        by_cases down : part = ".."
        · rw [if_pos down] at stopped
          cases stopped
        · rw [if_neg down] at stopped
          by_cases long : maxNameBytes < part.utf8ByteSize
          · rw [if_pos long] at stopped
            cases stopped
            exact .inr (.longName faces held search down long)
          · rw [if_neg long] at stopped
            cases free : files.node? (here ++ [part]) with
            | none => exact .inl (.missing faces held search down (Nat.not_lt.mp long) free)
            | some node =>
              rw [if_neg (by simp [isFree, free])] at stopped
              cases stopped

end Checks

/-- A path names a file, or there is none, or the system does not let it be followed. -/
theorem lacks_or_blocks_or_file (files : Files α) (path : Path) :
    files.Lacks path ∨ (∃ code, files.Blocks path code) ∨ ∃ file, files.file? path = some file := by
  cases held : hasNul path.text with
  | true => exact .inl (.nul held)
  | false =>
    by_cases long : pathBytesBound ≤ path.text.utf8ByteSize
    · exact .inr (.inl ⟨_, .longText held long⟩)
    · have short := Nat.not_le.mp long
      cases walked : files.walk (files.start path) path.parts with
      | error code =>
        obtain ⟨above, part, rest, here, parts, reached, stopped⟩ := exists_step_error walked
        have faces : files.Faces path here part := ⟨held, short, above, rest, parts, reached⟩
        exact (faces.lacks_or_blocks stopped).imp_right fun blocks => .inl ⟨code, blocks⟩
      | ok place =>
        have located := locate_eq_ok_iff.mpr ⟨acceptText_eq_ok_iff.mpr ⟨held, short⟩, walked⟩
        by_cases file : ∃ content permissions, files.node? place = some (.file content permissions)
        · obtain ⟨content, permissions, stored⟩ := file
          exact .inr (.inr ⟨_, file?_eq_some_iff.mpr ⟨place, located, stored⟩⟩)
        · refine .inl (.unlike located fun content permissions stored => ?_)
          exact file ⟨content, permissions, stored⟩

end InkToScreen.Files
