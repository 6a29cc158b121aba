import InkToScreen.Proofs.Files.Rooms

namespace InkToScreen.Files
variable {α : Type} {files : Files α} {place : Place} {path output : Path} {content : α}
  {permissions : Permissions}

/-- Two paths lead to one file. -/
inductive SameFile (files : Files α) (first second : Path) : Prop
  | intro (one : files.locate first = .ok there) (two : files.locate second = .ok there)
      (held : files.node? there = some (.file stored bits)) : SameFile files first second

/-- A path reads alike in two trees: it names the same file, or none, for all that can be told. -/
structure ReadsAlike (first second : Files α) (path : Path) : Prop where
  file : first.file? path = second.file? path
  names : first.namesFile path = second.namesFile path

theorem ReadsAlike.refl (files : Files α) (path : Path) : files.ReadsAlike files path :=
  ⟨rfl, rfl⟩

theorem ReadsAlike.content? {first second : Files α} (alike : first.ReadsAlike second path) :
    first.content? path = second.content? path :=
  congrArg (Option.map Prod.fst) alike.file

theorem ReadsAlike.readable? {first second : Files α} (alike : first.ReadsAlike second path) :
    first.readable? path = second.readable? path := by
  rw [Files.readable?, alike.file]
  rfl

section Walks

/-- How the end of a walk changes with a file at a place: what was missing may turn out to be the
file, or to lie behind it. -/
inductive Turns (place : Place) : Except SystemCode Place → Except SystemCode Place → Prop
  | same (result : Except SystemCode Place) : Turns place result result
  | behind : Turns place (.error .missing) (.error .notDirectory)
  | found : Turns place (.error .missing) (.ok place)

theorem ne_nil_of_notFolder (notFolder : files.isFolder place = false) : place ≠ [] := by
  rintro rfl
  simp [isFolder, node?, top] at notFolder

theorem step_at_put_file (notFolder : files.isFolder place = false) (part : String) :
    (files.put place (.file content permissions)).step place part = .error .notDirectory := by
  rw [step, node?_put_self files _ (ne_nil_of_notFolder notFolder)]

private theorem turns_isFree (notFolder : files.isFolder place = false) (next : Place) :
    Turns place (if files.isFree next = true then .error .missing else .ok next)
      (if (files.put place (.file content permissions)).isFree next = true then .error .missing
        else .ok next) := by
  by_cases reaches : next = place
  · subst next
    have taken : (files.put place (.file content permissions)).isFree place = false := by
      rw [isFree, node?_put_self files _ (ne_nil_of_notFolder notFolder)]
      rfl
    cases free : files.isFree place with
    | true =>
      rw [taken]
      exact .found
    | false =>
      rw [taken]
      exact .same _
  · rw [isFree, isFree, node?_put_other files _ reaches]
    exact .same _

theorem step_put_file (notFolder : files.isFolder place = false) (here : Place) (part : String) :
    Turns place (files.step here part)
      ((files.put place (.file content permissions)).step here part) := by
  by_cases atPlace : here = place
  · subst here
    rw [step_at_put_file notFolder, step]
    cases held : files.node? place with
    | none => exact .behind
    | some node =>
      cases node with
      | file => exact .same _
      | folder => simp [isFolder, held] at notFolder
  · rw [step, step, node?_put_other files _ atPlace]
    cases files.node? here with
    | none => exact .same _
    | some node =>
      cases node with
      | file => exact .same _
      | folder held =>
        by_cases search : held.maySearch = true
        · by_cases up : part = ".."
          · simp only [search, up, Bool.not_true, Bool.false_eq_true, if_false, if_true]
            exact .same _
          · by_cases long : maxNameBytes < part.utf8ByteSize
            · simp only [search, up, long, Bool.not_true, Bool.false_eq_true, if_false, if_true]
              exact .same _
            · simp only [search, up, long, Bool.not_true, Bool.false_eq_true, if_false]
              exact turns_isFree notFolder (here ++ [part])
        · simp only [search, Bool.not_false, if_true]
          exact .same _

/-- A walk is the same beside a file, or something was missing on it. -/
theorem walk_put_file (notFolder : files.isFolder place = false) (here : Place)
    (parts : List String) :
    Turns place (files.walk here parts)
      ((files.put place (.file content permissions)).walk here parts) := by
  induction parts generalizing here with
  | nil => exact .same _
  | cons part rest ih =>
    have stepped : Turns place (files.step here part)
        ((files.put place (.file content permissions)).step here part) :=
      step_put_file notFolder here part
    simp only [walk, List.foldlM_cons]
    generalize files.step here part = one at stepped
    generalize (files.put place (.file content permissions)).step here part = two at stepped
    cases stepped with
    | same =>
      cases one with
      | error code => exact .same _
      | ok next => exact ih next
    | behind => exact .behind
    | found =>
      cases rest with
      | nil => exact .found
      | cons next more =>
        change Turns place (.error .missing)
          ((files.put place (.file content permissions)).step place next >>= _)
        rw [step_at_put_file notFolder]
        exact .behind

end Walks

section Readings

theorem file?_eq_some_iff :
    files.file? path = some (content, permissions) ↔
      ∃ there, files.locate path = .ok there ∧
        files.node? there = some (.file content permissions) := by
  unfold file?
  constructor
  · intro named
    split at named
    · rename_i there located
      split at named
      · rename_i held
        cases named
        exact ⟨there, located, held⟩
      · cases named
    · cases named
  · rintro ⟨there, located, held⟩
    simp only [located, held]

theorem locate_put_file (notFolder : files.isFolder place = false) (path : Path) :
    (files.put place (.file content permissions)).locate path = files.locate path ∨
      files.locate path = .error (.system .missing) ∧
        ((files.put place (.file content permissions)).locate path =
            .error (.system .notDirectory) ∨
          (files.put place (.file content permissions)).locate path = .ok place) := by
  have walked : Turns place (files.walk (files.start path) path.parts)
      ((files.put place (.file content permissions)).walk (files.start path) path.parts) :=
    walk_put_file notFolder _ _
  have start : (files.put place (.file content permissions)).start path = files.start path := rfl
  unfold locate
  rw [start]
  cases acceptText path.text with
  | error obstacle => exact .inl rfl
  | ok accepted =>
    generalize files.walk (files.start path) path.parts = one at walked
    generalize (files.put place (.file content permissions)).walk (files.start path) path.parts =
      two at walked
    cases walked with
    | same => exact .inl rfl
    | behind => exact .inr ⟨rfl, .inl rfl⟩
    | found => exact .inr ⟨rfl, .inr rfl⟩

/-- A path that does not come to lead to the file reads alike with and without it. -/
theorem readsAlike_put_file (notFolder : files.isFolder place = false)
    (apart : (files.put place (.file content permissions)).locate path ≠ .ok place) :
    files.ReadsAlike (files.put place (.file content permissions)) path := by
  rcases locate_put_file notFolder path with same | ⟨missing, behind | found⟩
  · have file : files.file? path = (files.put place (.file content permissions)).file? path := by
      unfold file?
      rw [same]
      cases located : files.locate path with
      | error obstacle => rfl
      | ok there =>
        have elsewhere : there ≠ place := by
          rintro rfl
          exact apart (same.trans located)
        simp only [node?_put_other files _ elsewhere]
    refine ⟨file, ?_⟩
    unfold namesFile
    rw [same, file]
  · exact ⟨by simp only [file?, missing, behind], by simp only [namesFile, missing, behind]⟩
  · exact absurd found apart

/-- A path that names a file, and not that of the output, reads alike once the output is stored. -/
theorem readsAlike_put_target (found : files.target output = .ok place)
    (apart : ¬ files.SameFile output path) (present : (files.file? path).isSome = true) :
    files.ReadsAlike (files.put place (.file content permissions)) path := by
  obtain ⟨⟨stored, bits⟩, named⟩ := Option.isSome_iff_exists.mp present
  obtain ⟨there, located, held⟩ := file?_eq_some_iff.mp named
  refine readsAlike_put_file (isFolder_target found) fun reached => apart ?_
  rcases locate_put_file (isFolder_target found) path with same | ⟨missing, _⟩
  · obtain rfl := Except.ok.inj ((same.symm.trans reached).symm.trans located)
    refine .intro (locate_of_target found ?_) located held
    rw [held]
    simp
  · rw [located] at missing
    cases missing

end Readings

section Scratch
variable {folder : Path} {scratch : Scratch}

/-- Nothing stands in the way of a scratch file in trees with the same folders alike. -/
theorem SameFolders.obstacle?_eq_none {first second : Files α} (same : first.SameFolders second)
    {text : String} (free : first.obstacle? place text = none) :
    second.obstacle? place text = none := by
  obtain ⟨clean, short, there, walked, permissions, held, allowed⟩ := obstacle?_eq_none_iff.mp free
  exact obstacle?_eq_none_iff.mpr ⟨clean, short, there, same.walk walked held, permissions,
    (same.folder there permissions).mp held, allowed⟩

private theorem freeScratch?_congr {first second : Files α} {root : Root} {folder : Place}
    (same : ∀ number, second.isFree (folder ++ [Scratch.name number]) =
      first.isFree (folder ++ [Scratch.name number])) (attempts number : Nat) :
    second.freeScratch? root folder attempts number =
      first.freeScratch? root folder attempts number := by
  induction attempts generalizing number with
  | zero => rfl
  | succ attempts ih =>
    unfold freeScratch?
    rw [ih]
    cases free : first.isFree (folder ++ [Scratch.name number]) with
    | true => simp [Scratch.inFolder, same, free]
    | false => simp [Scratch.inFolder, same, free]

/-- The search for a scratch file ends alike in trees with the same folders in which the same
scratch names are free. -/
private theorem SameFolders.scratch_eq_ok {first second : Files α} (same : first.SameFolders second)
    (free : ∀ place number, second.isFree (place ++ [Scratch.name number]) =
      first.isFree (place ++ [Scratch.name number]))
    (placed : first.scratch folder = .ok scratch) : second.scratch folder = .ok scratch := by
  unfold Files.scratch at placed ⊢
  rw [← same.home]
  simp only [freeScratch?_congr (free _)] at placed ⊢
  split at placed
  · cases placed
  · cases placed
  · rename_i unobstructed
    rw [same.obstacle?_eq_none unobstructed]
    exact placed

private theorem isFree_put_file (unlike : ∀ folder number, place ≠ folder ++ [Scratch.name number])
    (folder : Place) (number : Nat) :
    (files.put place (.file content permissions)).isFree (folder ++ [Scratch.name number]) =
      files.isFree (folder ++ [Scratch.name number]) := by
  rw [isFree, isFree, node?_put_other files _ (Ne.symm (unlike _ number))]

/-- A file that has not the name of a scratch file leaves the search for one as it is. -/
theorem scratch_put_file (notFolder : files.isFolder place = false)
    (unlike : ∀ folder number, place ≠ folder ++ [Scratch.name number])
    (placed : files.scratch folder = .ok scratch) :
    (files.put place (.file content permissions)).scratch folder = .ok scratch :=
  (sameFolders_put_file files content permissions notFolder).scratch_eq_ok
    (isFree_put_file unlike) placed

theorem scratch_of_put_file (notFolder : files.isFolder place = false)
    (unlike : ∀ folder number, place ≠ folder ++ [Scratch.name number])
    (placed : (files.put place (.file content permissions)).scratch folder = .ok scratch) :
    files.scratch folder = .ok scratch :=
  (sameFolders_put_file files content permissions notFolder).symm.scratch_eq_ok
    (fun place number => (isFree_put_file unlike place number).symm) placed

theorem target_unlike_scratch (found : files.target path = .ok place)
    (unlike : ∀ number, path.name? ≠ some (Scratch.name number)) (folder : Place) (number : Nat) :
    place ≠ folder ++ [Scratch.name number] := by
  obtain ⟨_, above, _, named⟩ := target_eq_ok_iff.mp found
  obtain ⟨_, name, _, isName, _, _, _, _, _, rfl⟩ := targetIn_eq_ok_iff.mp named
  intro same
  rw [List.singleton_inj.mp (List.append_inj_right' same rfl)] at isName
  exact unlike number isName

end Scratch
end InkToScreen.Files
