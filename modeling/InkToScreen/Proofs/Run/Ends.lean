import InkToScreen.Imaging.Run

namespace InkToScreen
variable {lib : Library} {α β : Type}

/-- The library gives an answer in a world of which it changes only its own memory. -/
inductive Answered (answer : Answer lib.Memory α) (before : World lib) :
    Except Fault α → World lib → Prop
  | intro {given : Except Fault α} {memory : lib.Memory}
      (asked : answer before.memory = (given, memory)) :
      Answered answer before given { before with memory }

/-- Files and mask are as before; only the library may remember more. -/
structure World.SameSystem (before after : World lib) : Prop where
  files : after.files = before.files
  umask : after.umask = before.umask

theorem World.SameSystem.trans {before between after : World lib}
    (first : before.SameSystem between) (second : between.SameSystem after) :
    before.SameSystem after :=
  ⟨second.files.trans first.files, second.umask.trans first.umask⟩

namespace Answered
variable {answer : Answer lib.Memory α} {before after : World lib} {given : Except Fault α}

theorem sameSystem (answered : Answered answer before given after) : before.SameSystem after := by
  cases answered
  exact ⟨rfl, rfl⟩

theorem total (answer : Answer lib.Memory α) (before : World lib) :
    ∃ given after, Answered answer before given after :=
  ⟨_, _, .intro rfl⟩

/-- In one world the library gives one answer. -/
theorem unique {again : Except Fault α} {other : World lib}
    (one : Answered answer before given after) (two : Answered answer before again other) :
    given = again ∧ after = other := by
  cases one with
  | intro asked =>
    cases two with
    | intro askedAgain =>
      obtain ⟨rfl, rfl⟩ := Prod.mk.inj (asked.symm.trans askedAgain)
      exact ⟨rfl, rfl⟩

end Answered

/-- A fault among those that a stage catches becomes the error of the stage. -/
def Failure.ofFault (caught : Kind → Bool) (error : Fault → ConversionError) (cause : Fault) :
    Failure :=
  if caught cause.kind then .conversion (error cause) else .fault cause

namespace Run

/-- A run from one world ends with a result in another. -/
def Ends (run : Run lib α) (before : World lib) (result : Except Failure α) (after : World lib) :
    Prop :=
  (run before).result = result ∧ (run before).world = after

section Rules
variable {before between after : World lib} {value : α} {result : Except Failure α}
  {last : Except Failure β} {failure : Failure} {run : Run lib α} {next : α → Run lib β}

/-- A run ends in one way only. -/
theorem Ends.unique {other : Except Failure α} {elsewhere : World lib}
    (ended : run.Ends before result after) (again : run.Ends before other elsewhere) :
    result = other ∧ after = elsewhere :=
  ⟨ended.1.symm.trans again.1, ended.2.symm.trans again.2⟩

theorem ends_pure (value : α) (before : World lib) :
    (pure value : Run lib α).Ends before (.ok value) before :=
  ⟨rfl, rfl⟩

theorem ends_fail (failure : Failure) (before : World lib) :
    (fail failure : Run lib α).Ends before (.error failure) before :=
  ⟨rfl, rfl⟩

theorem ends_ofExcept (result : Except Failure α) (before : World lib) :
    (ofExcept result).Ends before result before :=
  ⟨rfl, rfl⟩

theorem ends_note (notice : Notice) (before : World lib) :
    (note notice).Ends before (.ok ()) before :=
  ⟨rfl, rfl⟩

theorem ends_look (before : World lib) : look.Ends before (.ok before) before :=
  ⟨rfl, rfl⟩

theorem ends_setFiles (files : Files lib.Content) (before : World lib) :
    (setFiles files).Ends before (.ok ()) { before with files } :=
  ⟨rfl, rfl⟩

theorem ends_setUmask (umask : Permissions) (before : World lib) :
    (setUmask umask).Ends before (.ok before.umask) { before with umask } :=
  ⟨rfl, rfl⟩

theorem ends_close (handle : Handle) (image : lib.Image) (before : World lib) :
    (close handle image).Ends before (.ok ()) before :=
  ⟨rfl, rfl⟩

theorem ends_ask {given : Except Fault α} {answer : Answer lib.Memory α} (call : Call lib)
    (answered : Answered answer before given after) :
    (ask call answer).Ends before (given.mapError .fault) after := by
  cases answered with
  | intro asked => simp [Ends, ask, asked]

theorem Ends.bind (ended : run.Ends before (.ok value) between)
    (rest : (next value).Ends between last after) : (run >>= next).Ends before last after := by
  obtain ⟨valued, reached⟩ := ended
  change (Run.bind run next before).result = last ∧ (Run.bind run next before).world = after
  unfold Run.bind
  cases done : run before with
  | mk result world notices calls =>
    rw [done] at valued reached
    cases valued
    cases reached
    exact rest

theorem Ends.bind_error (ended : run.Ends before (.error failure) after) :
    (run >>= next).Ends before (.error failure) after := by
  obtain ⟨failed, reached⟩ := ended
  change (Run.bind run next before).result = _ ∧ (Run.bind run next before).world = after
  unfold Run.bind
  cases done : run before with
  | mk result world notices calls =>
    rw [done] at failed reached
    cases failed
    exact ⟨rfl, reached⟩

theorem Ends.map {change : α → β} (ended : run.Ends before (.ok value) after) :
    (change <$> run).Ends before (.ok (change value)) after :=
  ended.bind (ends_pure (change value) after)

theorem Ends.map_error {change : α → β} (ended : run.Ends before (.error failure) after) :
    (change <$> run).Ends before (.error failure) after :=
  ended.bind_error

theorem Ends.reify (ended : run.Ends before result after) :
    (Run.reify run).Ends before (.ok result) after := by
  obtain ⟨rfl, rfl⟩ := ended
  exact ⟨rfl, rfl⟩

/-- A run that closes a picture at last ends as it would have without. -/
theorem Ends.ensuring_close (handle : Handle) (image : lib.Image)
    (ended : run.Ends before result after) :
    (ensuring run (close handle image)).Ends before result after :=
  ended.reify.bind ((ends_close handle image after).bind (ends_ofExcept result after))

/-- A run that ends with a value or a fault ends with the error of a stage instead of a fault that
the stage catches. -/
theorem Ends.convertingFaults (given : Except Fault α) (caught : Kind → Bool)
    (error : Fault → ConversionError) (ended : run.Ends before (given.mapError .fault) after) :
    (Run.convertingFaults caught error run).Ends before
      (given.mapError (Failure.ofFault caught error)) after := by
  refine ended.reify.bind ?_
  cases given with
  | ok value => exact ends_pure value after
  | error cause =>
    change (if caught cause.kind = true then fail (.conversion (error cause))
      else fail (.fault cause) : Run lib α).Ends after (.error (Failure.ofFault caught error cause))
        after
    unfold Failure.ofFault
    split
    · exact ends_fail _ after
    · exact ends_fail _ after

end Rules

end Run
end InkToScreen
