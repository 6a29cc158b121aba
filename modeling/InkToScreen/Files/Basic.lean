import InkToScreen.Failure
import InkToScreen.Files.Permissions

/-! A tree of files by location, with a working directory. There are no links, so a location names
at most one node, and putting one node in place leaves every other location alone. -/
namespace InkToScreen

inductive Node (α : Type) where
  | folder (permissions : Permissions)
  | file (content : α) (permissions : Permissions)
deriving DecidableEq, Repr

/-- Locations below the top directory with what they hold, and the working directory, whose names
are names that a path may hold. -/
structure Files (α : Type) where
  home : Place
  entries : List (Place × Node α)
  home_noNul : home.any hasNul = false
deriving DecidableEq, Repr

namespace Files
variable {α : Type}

def top : Node α :=
  .folder (.newFolder .usualMask)

/-- What a location holds; the top is a folder. -/
def node? (files : Files α) (place : Place) : Option (Node α) :=
  if place = [] then some top else files.entries.lookup place

def remove (files : Files α) (place : Place) : Files α :=
  { files with entries := files.entries.filter fun entry => entry.1 ≠ place }

def put (files : Files α) (place : Place) (node : Node α) : Files α :=
  { files with entries := (files.remove place).entries ++ [(place, node)] }

def isFolder (files : Files α) (place : Place) : Bool :=
  match files.node? place with
  | some (.folder _) => true
  | _ => false

def isFree (files : Files α) (place : Place) : Bool :=
  (files.node? place).isNone

private theorem lookup_filter_self (entries : List (Place × Node α)) (place : Place) :
    (entries.filter fun entry => entry.1 ≠ place).lookup place = none := by
  induction entries with
  | nil => rfl
  | cons entry rest ih =>
    by_cases same : entry.1 = place
    · simpa [List.filter_cons, same] using ih
    · simpa [List.filter_cons, same, List.lookup_cons, Ne.symm same] using ih

private theorem lookup_filter_other (entries : List (Place × Node α)) {place other : Place}
    (different : other ≠ place) :
    (entries.filter fun entry => entry.1 ≠ place).lookup other = entries.lookup other := by
  induction entries with
  | nil => rfl
  | cons entry rest ih =>
    obtain ⟨here, node⟩ := entry
    by_cases same : here = place
    · subst here
      have unequal : (other == place) = false := by simpa using different
      simpa [List.filter_cons, List.lookup_cons, unequal] using ih
    · simp only [List.filter_cons, same, ne_eq, not_false_eq_true, decide_true, if_true,
        List.lookup_cons]
      split
      · rfl
      · exact ih

private theorem lookup_append_of_none (entries more : List (Place × Node α)) (place : Place)
    (absent : entries.lookup place = none) :
    (entries ++ more).lookup place = more.lookup place := by
  induction entries with
  | nil => rfl
  | cons entry rest ih =>
    obtain ⟨here, node⟩ := entry
    rw [List.lookup_cons] at absent
    rw [List.cons_append, List.lookup_cons]
    split at absent
    · cases absent
    · exact ih absent

private theorem lookup_append_other (entries : List (Place × Node α)) {place other : Place}
    (node : Node α) (different : other ≠ place) :
    (entries ++ [(place, node)]).lookup other = entries.lookup other := by
  induction entries with
  | nil =>
    have unequal : (other == place) = false := by simpa using different
    simp [List.lookup_cons, unequal]
  | cons entry rest ih =>
    obtain ⟨here, held⟩ := entry
    rw [List.cons_append, List.lookup_cons, List.lookup_cons, ih]

/-- A removed location holds nothing; the top cannot be removed. -/
theorem node?_remove_self (files : Files α) {place : Place} (below : place ≠ []) :
    (files.remove place).node? place = none := by
  simp only [node?, below, if_false, remove]
  exact lookup_filter_self files.entries place

theorem node?_remove_other (files : Files α) {place other : Place} (different : other ≠ place) :
    (files.remove place).node? other = files.node? other := by
  simp only [node?, remove]
  split
  · rfl
  · exact lookup_filter_other files.entries different

theorem node?_put_self (files : Files α) {place : Place} (node : Node α) (below : place ≠ []) :
    (files.put place node).node? place = some node := by
  simp only [node?, below, if_false, put, remove]
  rw [lookup_append_of_none _ _ _ (lookup_filter_self files.entries place)]
  simp

theorem node?_put_other (files : Files α) {place other : Place} (node : Node α)
    (different : other ≠ place) : (files.put place node).node? other = files.node? other := by
  simp only [node?, put, remove]
  split
  · rfl
  · rw [lookup_append_other _ _ different, lookup_filter_other _ different]

theorem ne_nil_of_free {files : Files α} {place : Place} (free : files.node? place = none) :
    place ≠ [] := by
  rintro rfl
  simp [node?] at free

theorem remove_of_free (files : Files α) {place : Place} (free : files.node? place = none) :
    files.remove place = files := by
  have absent : files.entries.lookup place = none := by
    simpa [node?, ne_nil_of_free free] using free
  have kept : files.entries.filter (fun entry => entry.1 ≠ place) = files.entries := by
    apply List.filter_eq_self.mpr
    intro entry member
    simp only [ne_eq, decide_eq_true_eq]
    rintro rfl
    obtain ⟨here, held⟩ := entry
    have found := List.lookup_eq_none_iff.mp absent (here, held) member
    simp at found
  simp only [remove, kept]

/-- Taking away what was just put where nothing was restores the tree. -/
theorem remove_put_of_free (files : Files α) {place : Place} (node : Node α)
    (free : files.node? place = none) : (files.put place node).remove place = files := by
  have kept := congrArg Files.entries (remove_of_free files free)
  have alone : [(place, node)].filter (fun entry => entry.1 ≠ place) = [] := by simp
  simp only [remove] at kept
  simp only [put, remove, List.filter_append, kept, alone, List.append_nil]

theorem put_put (files : Files α) (place : Place) (first second : Node α) :
    (files.put place first).put place second = files.put place second := by
  simp [put, remove, List.filter_append, List.filter_filter]

end Files
end InkToScreen
