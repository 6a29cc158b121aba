import InkToScreen.Proofs.Files.Folders

namespace InkToScreen
variable {α : Type}

theorem acceptText_eq_ok_iff {text : String} :
    acceptText text = .ok () ↔ hasNul text = false ∧ text.utf8ByteSize < pathBytesBound := by
  unfold acceptText
  cases hasNul text with
  | true => simp
  | false =>
    by_cases long : pathBytesBound ≤ text.utf8ByteSize
    · simp [long, Nat.not_lt.mpr long]
    · simp [long, Nat.not_le.mp long]

namespace Files
variable {files : Files α} {place : Place}

/-- A folder in which names may be added and taken away. -/
def Admits (files : Files α) (place : Place) : Prop :=
  ∃ permissions, files.node? place = some (.folder permissions) ∧
    permissions.maySearch = true ∧ permissions.mayWrite = true

/-- A scratch file can be made in the folder of a path: the text of its own path can be used, the
folder is there and may be changed, and a name is free. -/
structure Hosts (files : Files α) (folder : Path) : Prop where
  clean : hasNul (Scratch.inFolder folder.root (folder.place files.home) 0).text = false
  short : (Scratch.inFolder folder.root (folder.place files.home) 0).text.utf8ByteSize <
    pathBytesBound
  reached : ∃ there, files.walk [] (folder.place files.home) = .ok there ∧ files.Admits there
  /-- A folder in which all numbered names are taken may still have room for a random one. -/
  free : ∃ number < Scratch.attempts,
    files.node? (Scratch.inFolder folder.root (folder.place files.home) number).place = none

/-- What a path names can be replaced: its text can be used, its folder is there and may be changed,
and its last name is neither too long nor that of a folder. -/
structure Replaceable (files : Files α) (path : Path) : Prop where
  clean : hasNul path.text = false
  short : path.text.utf8ByteSize < pathBytesBound
  named : ∃ folder name, files.walk (files.start path) path.parent.parts = .ok folder ∧
    files.Admits folder ∧ path.name? = some name ∧ name ≠ ".." ∧
      name.utf8ByteSize ≤ maxNameBytes ∧ files.isFolder (folder ++ [name]) = false

theorem refusal?_eq_none_iff : files.refusal? place = none ↔ files.Admits place := by
  unfold refusal? Admits
  cases files.node? place with
  | none => simp
  | some node =>
    cases node with
    | file content permissions => simp
    | folder permissions => simp

theorem obstacle?_eq_none_iff {text : String} :
    files.obstacle? place text = none ↔ hasNul text = false ∧
      text.utf8ByteSize < pathBytesBound ∧
        ∃ there, files.walk [] place = .ok there ∧ files.Admits there := by
  rw [← and_assoc, ← acceptText_eq_ok_iff]
  unfold obstacle?
  cases acceptText text with
  | error obstacle => simp
  | ok _ =>
    cases files.walk [] place with
    | error code => simp
    | ok there => simp [refusal?_eq_none_iff]

/-- The names are tried one after the other, from a number on. -/
theorem exists_freeScratch?_iff (files : Files α) (root : Root) (place : Place)
    (attempts first : Nat) :
    (∃ scratch, files.freeScratch? root place attempts first = some scratch) ↔
      ∃ number, first ≤ number ∧ number < first + attempts ∧
        files.node? (Scratch.inFolder root place number).place = none := by
  induction attempts generalizing first with
  | zero =>
    constructor
    · rintro ⟨scratch, ⟨⟩⟩
    · rintro ⟨number, lower, upper, _⟩
      omega
  | succ attempts ih =>
    rw [freeScratch?]
    by_cases free : files.node? (Scratch.inFolder root place first).place = none
    · have isFree : files.isFree (Scratch.inFolder root place first).place = true := by
        simp [isFree, free]
      rw [if_pos isFree]
      exact iff_of_true ⟨_, rfl⟩ ⟨first, Nat.le_refl first, by omega, free⟩
    · have taken : ¬ files.isFree (Scratch.inFolder root place first).place = true := by
        simpa [isFree] using free
      rw [if_neg taken, ih]
      constructor
      · rintro ⟨number, lower, upper, later⟩
        exact ⟨number, by omega, by omega, later⟩
      · rintro ⟨number, lower, upper, found⟩
        have other : number ≠ first := by
          rintro rfl
          exact free found
        exact ⟨number, by omega, by omega, found⟩

theorem exists_scratch_iff {folder : Path} :
    (∃ scratch, files.scratch folder = .ok scratch) ↔ files.Hosts folder := by
  simp only [scratch]
  cases blocked : files.obstacle? (folder.place files.home)
      (Scratch.inFolder folder.root (folder.place files.home) 0).text with
  | some obstacle =>
    have refused : ¬ files.Hosts folder := by
      rintro ⟨clean, short, reached, _⟩
      cases blocked.symm.trans (obstacle?_eq_none_iff.mpr ⟨clean, short, reached⟩)
    refine iff_of_false ?_ refused
    cases obstacle <;> simp
  | none =>
    obtain ⟨clean, short, reached⟩ := obstacle?_eq_none_iff.mp blocked
    have tried := exists_freeScratch?_iff files folder.root (folder.place files.home)
      Scratch.attempts 0
    constructor
    · rintro ⟨scratch, made⟩
      cases found : files.freeScratch? folder.root (folder.place files.home) Scratch.attempts 0 with
      | none =>
        rw [found] at made
        cases made
      | some other =>
        obtain ⟨number, _, upper, free⟩ := tried.mp ⟨other, found⟩
        exact ⟨clean, short, reached, number, by omega, free⟩
    · rintro ⟨_, _, _, number, upper, free⟩
      obtain ⟨scratch, found⟩ := tried.mpr ⟨number, Nat.zero_le number, by omega, free⟩
      exact ⟨scratch, by rw [found]⟩

theorem exists_target_iff {path : Path} :
    (∃ place, files.target path = .ok place) ↔ files.Replaceable path := by
  constructor
  · rintro ⟨place, found⟩
    obtain ⟨accepted, folder, walked, named⟩ := target_eq_ok_iff.mp found
    obtain ⟨clean, short⟩ := acceptText_eq_ok_iff.mp accepted
    obtain ⟨permissions, name, held, isName, search, change, down, fits, notFolder, _⟩ :=
      targetIn_eq_ok_iff.mp named
    exact ⟨clean, short, folder, name, walked, ⟨permissions, held, search, change⟩, isName, down,
      fits, notFolder⟩
  · rintro ⟨clean, short, folder, name, walked, ⟨permissions, held, search, change⟩, isName, down,
      fits, notFolder⟩
    refine ⟨folder ++ [name], target_eq_ok_iff.mpr ⟨acceptText_eq_ok_iff.mpr ⟨clean, short⟩, folder,
      walked, ?_⟩⟩
    exact targetIn_eq_ok_iff.mpr ⟨permissions, name, held, isName, search, change, down, fits,
      notFolder, rfl⟩

end Files
end InkToScreen
