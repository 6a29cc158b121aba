import InkToScreen.Files.Scratch
import InkToScreen.Proofs.Answers

/-! Paths in trees that share their folders. A walk that ends in a folder passes through folders
only, so it is the same in every such tree. -/
namespace InkToScreen.Files
variable {α : Type} {files first second : Files α} {place : Place} {path : Path}

/-- Two trees have the same folders and the same working directory. -/
structure SameFolders (first second : Files α) : Prop where
  home : first.home = second.home
  folder : ∀ place permissions, first.node? place = some (.folder permissions) ↔
    second.node? place = some (.folder permissions)

theorem SameFolders.symm (same : first.SameFolders second) : second.SameFolders first :=
  ⟨same.home.symm, fun place permissions => (same.folder place permissions).symm⟩

theorem SameFolders.refl (files : Files α) : files.SameFolders files :=
  ⟨rfl, fun _ _ => Iff.rfl⟩

theorem SameFolders.trans (same : files.SameFolders first) (further : first.SameFolders second) :
    files.SameFolders second :=
  ⟨same.home.trans further.home, fun place permissions =>
    (same.folder place permissions).trans (further.folder place permissions)⟩

theorem isFolder_iff :
    files.isFolder place = true ↔
      ∃ permissions, files.node? place = some (.folder permissions) := by
  unfold isFolder
  split
  · rename_i permissions found
    simp [found]
  · rename_i other
    constructor
    · intro impossible
      cases impossible
    · rintro ⟨permissions, found⟩
      exact absurd found (other permissions)

theorem SameFolders.isFolder (same : first.SameFolders second) (place : Place) :
    first.isFolder place = second.isFolder place := by
  rw [Bool.eq_iff_iff, isFolder_iff, isFolder_iff]
  constructor
  · rintro ⟨permissions, found⟩
    exact ⟨permissions, (same.folder place permissions).mp found⟩
  · rintro ⟨permissions, found⟩
    exact ⟨permissions, (same.folder place permissions).mpr found⟩

/-- A file put where no folder is leaves the folders as they are. -/
theorem sameFolders_put_file (files : Files α) (content : α) (permissions : Permissions)
    (notFolder : files.isFolder place = false) :
    files.SameFolders (files.put place (.file content permissions)) where
  home := rfl
  folder := by
    have below : place ≠ [] := by
      rintro rfl
      simp [isFolder, node?, top] at notFolder
    intro other held
    by_cases same : other = place
    · subst other
      rw [node?_put_self files _ below]
      constructor
      · intro found
        rw [isFolder_iff.mpr ⟨held, found⟩] at notFolder
        cases notFolder
      · intro found
        cases found
    · rw [node?_put_other files _ same]

theorem isFolder_of_free (free : files.node? place = none) : files.isFolder place = false := by
  simp [isFolder, free]

/-- One more name leads on from a folder that may be gone through: up, or to what is there. -/
theorem step_eq_ok_iff {here there : Place} {part : String} :
    files.step here part = .ok there ↔ ∃ permissions,
      files.node? here = some (.folder permissions) ∧ permissions.maySearch = true ∧
        (part = ".." ∧ there = here.dropLast ∨
          part ≠ ".." ∧ part.utf8ByteSize ≤ maxNameBytes ∧ files.node? (here ++ [part]) ≠ none ∧
            there = here ++ [part]) := by
  unfold step
  cases files.node? here with
  | none => simp
  | some node =>
    cases node with
    | file content permissions => simp
    | folder permissions =>
      by_cases search : permissions.maySearch = true
      · by_cases up : part = ".."
        · simp only [search, up, Bool.not_true, Bool.false_eq_true, if_false, if_true]
          simpa [search] using eq_comm
        · by_cases long : maxNameBytes < part.utf8ByteSize
          · simp [search, up, long, Nat.not_le.mpr long]
          · cases found : files.node? (here ++ [part]) with
            | none => simp [search, up, long, isFree, found]
            | some node =>
              simpa [search, up, long, isFree, found, Nat.not_lt.mp long] using eq_comm
      · simp [search]

theorem walk_cons_eq_ok_iff {here there : Place} {part : String} {rest : List String} :
    files.walk here (part :: rest) = .ok there ↔
      ∃ next, files.step here part = .ok next ∧ files.walk next rest = .ok there := by
  simp only [walk, List.foldlM_cons, bind_eq_ok_iff]

theorem walk_append_eq_ok_iff {here there : Place} {parts rest : List String} :
    files.walk here (parts ++ rest) = .ok there ↔
      ∃ next, files.walk here parts = .ok next ∧ files.walk next rest = .ok there := by
  simp only [walk, List.foldlM_append, bind_eq_ok_iff]

/-- A walk is the same in every tree with the same folders that holds something where it ends. -/
theorem SameFolders.walk_of_present (same : first.SameFolders second) {here there : Place}
    {parts : List String} (walked : first.walk here parts = .ok there)
    (present : second.node? there ≠ none) : second.walk here parts = .ok there := by
  induction parts generalizing here with
  | nil => exact walked
  | cons part rest ih =>
    obtain ⟨next, stepped, further⟩ := walk_cons_eq_ok_iff.mp walked
    obtain ⟨held, found, search, way⟩ := step_eq_ok_iff.mp stepped
    refine walk_cons_eq_ok_iff.mpr ⟨next, ?_, ih further⟩
    refine step_eq_ok_iff.mpr ⟨held, (same.folder here held).mp found, search, ?_⟩
    rcases way with up | ⟨down, short, _, rfl⟩
    · exact .inl up
    · refine .inr ⟨down, short, ?_, rfl⟩
      -- the last name leads to what is there, and any other name to a folder
      cases rest with
      | nil =>
        cases further
        exact present
      | cons name more =>
        obtain ⟨_, onward, _⟩ := walk_cons_eq_ok_iff.mp further
        obtain ⟨bits, isFolder, _⟩ := step_eq_ok_iff.mp onward
        rw [(same.folder _ bits).mp isFolder]
        simp

/-- A walk that ends in a folder is the same in every tree with the same folders. -/
theorem SameFolders.walk (same : first.SameFolders second) {here there : Place}
    {parts : List String} {permissions : Permissions}
    (walked : first.walk here parts = .ok there)
    (ends : first.node? there = some (.folder permissions)) :
    second.walk here parts = .ok there := by
  refine same.walk_of_present walked ?_
  rw [(same.folder there permissions).mp ends]
  simp

/-- A renaming finds its place in a folder that may be gone through and changed, under a name that
is neither too long nor that of a folder. -/
theorem targetIn_eq_ok_iff {folder : Place} {name? : Option String} :
    files.targetIn folder name? = .ok place ↔ ∃ permissions name,
      files.node? folder = some (.folder permissions) ∧ name? = some name ∧
        permissions.maySearch = true ∧ permissions.mayWrite = true ∧ name ≠ ".." ∧
          name.utf8ByteSize ≤ maxNameBytes ∧ files.isFolder (folder ++ [name]) = false ∧
            place = folder ++ [name] := by
  unfold targetIn
  cases files.node? folder with
  | none => simp
  | some node =>
    cases node with
    | file content permissions => simp
    | folder permissions =>
      cases name? with
      | none => simp
      | some name =>
        by_cases search : permissions.maySearch = true
        · by_cases up : name = ".."
          · simp [search, up]
          · by_cases long : maxNameBytes < name.utf8ByteSize
            · simp [search, up, long, Nat.not_le.mpr long]
            · by_cases change : permissions.mayWrite = true
              · cases occupied : files.isFolder (folder ++ [name]) with
                | true => simp [search, up, long, change, occupied]
                | false =>
                  simpa [search, up, long, change, occupied, Nat.not_lt.mp long] using eq_comm
              · simp [search, up, long, change]
        · simp [search]

theorem target_eq_ok_iff :
    files.target path = .ok place ↔ acceptText path.text = .ok () ∧
      ∃ folder, files.walk (files.start path) path.parts.dropLast = .ok folder ∧
        files.targetIn folder path.name? = .ok place := by
  simp only [target, bind_eq_ok_iff, mapError_eq_ok_iff]
  constructor
  · rintro ⟨⟨⟩, accepted, found⟩
    exact ⟨accepted, found⟩
  · rintro ⟨accepted, found⟩
    exact ⟨(), accepted, found⟩

theorem locate_eq_ok_iff :
    files.locate path = .ok place ↔
      acceptText path.text = .ok () ∧ files.walk (files.start path) path.parts = .ok place := by
  simp only [locate, bind_eq_ok_iff]
  constructor
  · rintro ⟨⟨⟩, accepted, found⟩
    cases walked : files.walk (files.start path) path.parts with
    | ok there =>
      rw [walked] at found
      cases found
      exact ⟨accepted, rfl⟩
    | error code =>
      rw [walked] at found
      cases found
  · rintro ⟨accepted, walked⟩
    refine ⟨(), accepted, ?_⟩
    rw [walked]

theorem SameFolders.start (same : first.SameFolders second) (path : Path) :
    first.start path = second.start path := by
  simp [Files.start, same.home]

/-- A renaming finds the same place in every tree with the same folders. -/
theorem SameFolders.target (same : first.SameFolders second)
    (found : first.target path = .ok place) : second.target path = .ok place := by
  obtain ⟨accepted, folder, walked, named⟩ := target_eq_ok_iff.mp found
  obtain ⟨permissions, name, held, isName, search, change, down, short, notFolder, rfl⟩ :=
    targetIn_eq_ok_iff.mp named
  refine target_eq_ok_iff.mpr ⟨accepted, folder, ?_, ?_⟩
  · rw [← same.start]
    exact same.walk walked held
  · exact targetIn_eq_ok_iff.mpr ⟨permissions, name, (same.folder folder permissions).mp held,
      isName, search, change, down, short, (same.isFolder _).symm.trans notFolder, rfl⟩

theorem isFolder_target (found : files.target path = .ok place) :
    files.isFolder place = false := by
  obtain ⟨_, folder, _, named⟩ := target_eq_ok_iff.mp found
  obtain ⟨_, name, _, _, _, _, _, _, notFolder, rfl⟩ := targetIn_eq_ok_iff.mp named
  exact notFolder

theorem target_ne_nil (found : files.target path = .ok place) : place ≠ [] := by
  rintro rfl
  have notFolder := isFolder_target found
  simp [isFolder, node?, top] at notFolder

/-- A path leads to its target if something is there. -/
theorem locate_of_target (found : files.target path = .ok place)
    (present : files.node? place ≠ none) : files.locate path = .ok place := by
  obtain ⟨accepted, folder, walked, named⟩ := target_eq_ok_iff.mp found
  obtain ⟨held, name, isHeld, isName, search, _, down, short, _, rfl⟩ :=
    targetIn_eq_ok_iff.mp named
  refine locate_eq_ok_iff.mpr ⟨accepted, ?_⟩
  obtain ⟨above, parts⟩ := List.getLast?_eq_some_iff.mp isName
  have isAbove : path.parts.dropLast = above := by simp [parts]
  rw [isAbove] at walked
  rw [parts]
  refine walk_append_eq_ok_iff.mpr ⟨folder, walked, walk_cons_eq_ok_iff.mpr ⟨_, ?_, rfl⟩⟩
  exact step_eq_ok_iff.mpr ⟨held, isHeld, search, .inr ⟨down, short, present, rfl⟩⟩

/-- After a file has been put at the target of a path, the path leads there. -/
theorem locate_put_target (found : files.target path = .ok place) (content : α)
    (permissions : Permissions) :
    (files.put place (.file content permissions)).locate path = .ok place := by
  have same := sameFolders_put_file files content permissions (isFolder_target found)
  refine locate_of_target (same.target found) ?_
  rw [node?_put_self files _ (target_ne_nil found)]
  simp

section Scratch
variable {scratch : Scratch}

theorem permit_put_scratch (free : files.node? scratch.place = none) (content : α)
    (old new : Permissions) :
    (files.put scratch.place (.file content old)).permit scratch new =
      .ok (files.put scratch.place (.file content new)) := by
  simp [permit, node?_put_self files _ (ne_nil_of_free free), put_put]

theorem permit_of_free (free : files.node? scratch.place = none) (new : Permissions) :
    files.permit scratch new = .error (.system ⟨.missing, [scratch.text]⟩) := by
  simp [permit, free]

theorem sameFolders_put_scratch (free : files.node? scratch.place = none) (content : α)
    (permissions : Permissions) :
    files.SameFolders (files.put scratch.place (.file content permissions)) :=
  sameFolders_put_file files content permissions (isFolder_of_free free)

/-- A scratch file takes the place of the target that the path had before there was one. -/
theorem rename_put_scratch (free : files.node? scratch.place = none) (content : α)
    (permissions : Permissions) (found : files.target path = .ok place) :
    (files.put scratch.place (.file content permissions)).rename scratch path =
      .ok (files.put place (.file content permissions)) := by
  have target := (sameFolders_put_scratch free content permissions).target found
  simp [rename, target, node?_put_self files _ (ne_nil_of_free free),
    remove_put_of_free files _ free]

/-- A scratch file takes no other place than that of a target. -/
theorem target_of_rename_put_scratch (free : files.node? scratch.place = none) {content : α}
    {permissions : Permissions} {renamed : Files α}
    (moved : (files.put scratch.place (.file content permissions)).rename scratch path =
      .ok renamed) :
    ∃ place, files.target path = .ok place ∧
      renamed = files.put place (.file content permissions) := by
  have same := sameFolders_put_scratch free content permissions
  have again := moved
  unfold rename at moved
  split at moved
  · cases moved
  · cases moved
  · rename_i place target
    have found := same.symm.target target
    refine ⟨place, found, ?_⟩
    rw [rename_put_scratch free content permissions found] at again
    exact (Except.ok.inj again).symm

end Scratch

end InkToScreen.Files
