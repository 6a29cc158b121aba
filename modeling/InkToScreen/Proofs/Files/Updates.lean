import InkToScreen.Proofs.Files.Beside

/-! Updates of a tree. A file is stored at the target of an output path, or nothing happens; so
two updates at different places come to the same tree in either order. -/
namespace InkToScreen.Files
variable {α : Type} {files before after : Files α} {path output other : Path}

/-- A tree is as it was, or a file has been stored at the target of the output path. -/
inductive Updates (output : Path) (before : Files α) : Files α → Prop
  | same : Updates output before before
  | stored (found : before.target output = .ok place) :
      Updates output before (before.put place (.file content permissions))

/-- Two trees are updated alike: neither of them, or both by the same file at the same place. -/
inductive UpdatesAlike (output : Path) (one two : Files α) : Files α → Files α → Prop
  | same : UpdatesAlike output one two one two
  | stored (found : one.target output = .ok place) :
      UpdatesAlike output one two (one.put place (.file content permissions))
        (two.put place (.file content permissions))

/-- With a file at the target of the output path, another path leads to that file. -/
inductive Meets (files : Files α) (output path : Path) : Prop
  | intro (found : files.target output = .ok place)
      (reached : (files.put place (.file content permissions)).locate path = .ok place) :
      Meets files output path

/-- Two trees with one working directory hold the same at every location. -/
structure SameTree (first second : Files α) : Prop where
  home : first.home = second.home
  node : ∀ place, first.node? place = second.node? place

section Places
variable {place : Place}

/-- No name stands for another location: a step comes to where its name says. -/
def Unlinked (files : Files α) : Prop :=
  ∀ here part there, files.step here part = .ok there → there = Path.collapse here part

/-- No tree holds a link. -/
theorem unlinked (files : Files α) : files.Unlinked := by
  intro here part there stepped
  obtain ⟨_, _, _, ⟨up, same⟩ | ⟨down, _, _, same⟩⟩ := step_eq_ok_iff.mp stepped
  · simp only [Path.collapse, up, if_true, same]
  · simp only [Path.collapse, down, if_false, same]

namespace Unlinked

/-- Without links, a walk comes to the location that its names give by their text. -/
theorem walk_place (unlinked : files.Unlinked) {here there : Place} {parts : List String}
    (walked : files.walk here parts = .ok there) : there = parts.foldl Path.collapse here := by
  induction parts generalizing here with
  | nil =>
    cases walked
    rfl
  | cons part rest ih =>
    obtain ⟨next, stepped, further⟩ := walk_cons_eq_ok_iff.mp walked
    rw [List.foldl_cons, ← unlinked here part next stepped]
    exact ih further

theorem place_of_locate (unlinked : files.Unlinked) (located : files.locate path = .ok place) :
    place = path.place files.home :=
  unlinked.walk_place (locate_eq_ok_iff.mp located).2

end Unlinked

theorem place_of_locate (located : files.locate path = .ok place) :
    place = path.place files.home :=
  files.unlinked.place_of_locate located

theorem place_of_target (found : files.target path = .ok place) :
    place = path.place files.home := by
  obtain ⟨_, folder, walked, named⟩ := target_eq_ok_iff.mp found
  obtain ⟨_, name, _, isName, _, _, down, _, _, rfl⟩ := targetIn_eq_ok_iff.mp named
  obtain ⟨above, parts⟩ := List.getLast?_eq_some_iff.mp isName
  have isAbove : path.parts.dropLast = above := by simp [parts]
  have isFolder := files.unlinked.walk_place walked
  rw [isAbove] at isFolder
  rw [Path.place, parts, List.foldl_append, List.foldl_cons, List.foldl_nil]
  change folder ++ [name] = Path.collapse (above.foldl Path.collapse (files.start path)) name
  rw [← isFolder, Path.collapse, if_neg down]

/-- Paths that name different locations by their text do not meet. -/
theorem not_meets_of_place_ne (different : output.place files.home ≠ path.place files.home) :
    ¬ files.Meets output path := by
  rintro ⟨found, reached⟩
  have leads := place_of_locate reached
  exact different ((place_of_target found).symm.trans leads)

theorem ne_of_not_meets {one two : Place} (apart : ¬ files.Meets output other) (content : α)
    (permissions : Permissions) (found : files.target output = .ok one)
    (foundToo : files.target other = .ok two) : one ≠ two := by
  rintro rfl
  exact apart (.intro found (locate_put_target foundToo content permissions))

end Places

namespace Updates
variable {place : Place}

theorem sameFolders (updates : Updates output before after) : before.SameFolders after := by
  cases updates with
  | same => exact .refl before
  | stored found => exact sameFolders_put_file before _ _ (isFolder_target found)

theorem target_eq_ok_iff (updates : Updates output before after) :
    after.target path = .ok place ↔ before.target path = .ok place :=
  ⟨updates.sameFolders.symm.target, updates.sameFolders.target⟩

/-- An output file has not the name of a scratch file, so it does not disturb the search for one. -/
theorem scratch_eq_ok_iff {scratch : Scratch} (updates : Updates output before after)
    (unlike : ∀ number, output.name? ≠ some (Scratch.name number)) :
    after.scratch path = .ok scratch ↔ before.scratch path = .ok scratch := by
  cases updates with
  | same => exact Iff.rfl
  | stored found =>
    have apart := target_unlike_scratch found unlike
    exact ⟨scratch_of_put_file (isFolder_target found) apart,
      scratch_put_file (isFolder_target found) apart⟩

/-- A path that does not meet the output path reads alike before and after. -/
theorem readsAlike (updates : Updates output before after) (apart : ¬ before.Meets output path) :
    before.ReadsAlike after path := by
  cases updates with
  | same => exact .refl before path
  | stored found =>
    exact readsAlike_put_file (isFolder_target found) fun reached => apart (.intro found reached)

end Updates

theorem node?_put_put {one two : Place} (files : Files α) (different : one ≠ two)
    (node nodeToo : Node α) (notOne : one ≠ []) (notTwo : two ≠ []) (place : Place) :
    ((files.put one node).put two nodeToo).node? place =
      ((files.put two nodeToo).put one node).node? place := by
  by_cases atOne : place = one
  · subst place
    rw [node?_put_other _ _ different, node?_put_self _ _ notOne, node?_put_self _ _ notOne]
  · by_cases atTwo : place = two
    · subst place
      rw [node?_put_self _ _ notTwo, node?_put_other _ _ different.symm, node?_put_self _ _ notTwo]
    · rw [node?_put_other _ _ atTwo, node?_put_other _ _ atOne, node?_put_other _ _ atOne,
        node?_put_other _ _ atTwo]

/-- Updates at output paths that do not meet come to the same tree in either order. -/
theorem UpdatesAlike.commute {one two oneLast twoLast : Files α}
    (first : UpdatesAlike output files two one oneLast)
    (second : UpdatesAlike other files one two twoLast) (apart : ¬ files.Meets output other) :
    twoLast.SameTree oneLast := by
  cases first with
  | same =>
    cases second with
    | same => exact ⟨rfl, fun _ => rfl⟩
    | stored foundToo => exact ⟨rfl, fun _ => rfl⟩
  | @stored _ content permissions found =>
    cases second with
    | same => exact ⟨rfl, fun _ => rfl⟩
    | stored foundToo =>
      exact ⟨rfl, node?_put_put files (ne_of_not_meets apart content permissions found foundToo) _ _
        (target_ne_nil found) (target_ne_nil foundToo)⟩

end InkToScreen.Files
