import InkToScreen.Proofs.Run.Agree

namespace InkToScreen
variable {lib : Library} {α β : Type}

/-- An answer does not depend on what the library remembers. -/
def Forgets (answer : Answer lib.Memory α) : Prop :=
  ∀ memory other, (answer memory).1 = (answer other).1

/-- Worlds stay related whatever the library remembers. -/
def World.AnyMemory (related : World lib → World lib → Prop) : Prop :=
  ∀ here there, related here there → ∀ memory other,
    related { here with memory } { there with memory := other }

namespace Run

def Steady (related : World lib → World lib → Prop) (run : Run lib α) : Prop :=
  ∀ here there, related here there → Agree related run here run there

variable {related : World lib → World lib → Prop} {run : Run lib α} {next : α → Run lib β}

theorem steady_pure (value : α) : (pure value : Run lib α).Steady related :=
  fun _ _ worlds => ⟨rfl, rfl, rfl, worlds⟩

theorem steady_fail (failure : Failure) : (fail failure : Run lib α).Steady related :=
  fun _ _ worlds => ⟨rfl, rfl, rfl, worlds⟩

theorem steady_ofExcept (result : Except Failure α) :
    (ofExcept result : Run lib α).Steady related :=
  fun _ _ worlds => ⟨rfl, rfl, rfl, worlds⟩

theorem steady_note (notice : Notice) : (note notice : Run lib Unit).Steady related :=
  fun _ _ worlds => ⟨rfl, rfl, rfl, worlds⟩

theorem steady_ask (free : World.AnyMemory related) (call : Call lib)
    {answer : Answer lib.Memory α} (forgets : Forgets answer) :
    (ask call answer).Steady related := by
  intro here there worlds
  have same := forgets here.memory there.memory
  unfold Agree ask
  cases given : answer here.memory with
  | mk result memory =>
    cases again : answer there.memory with
    | mk other left =>
      rw [given, again] at same
      cases same
      exact ⟨rfl, rfl, rfl, free here there worlds memory left⟩

theorem Steady.bind (first : run.Steady related) (rest : ∀ value, (next value).Steady related) :
    (run >>= next).Steady related :=
  fun here there worlds =>
    (first here there worlds).bind fun value reached elsewhere _ met =>
      rest value reached elsewhere met

/-- What looks at the world is steady if it goes on alike in related worlds. -/
theorem steady_look {next : World lib → Run lib α}
    (rest : ∀ here there, related here there → Agree related (next here) here (next there) there) :
    (look >>= next).Steady related :=
  fun here there worlds =>
    have same := rest here there worlds
    ⟨same.result, same.notices, same.calls, same.world⟩

theorem Steady.map {change : α → β} (steady : run.Steady related) :
    (change <$> run).Steady related :=
  steady.bind fun value => steady_pure (change value)

theorem Steady.reify (steady : run.Steady related) : (Run.reify run).Steady related :=
  fun here there worlds => (steady here there worlds).reify

theorem Steady.ensuring_close (steady : run.Steady related) (handle : Handle)
    (image : lib.Image) : (ensuring run (close handle image)).Steady related :=
  fun here there worlds => (steady here there worlds).ensuring_close handle image

theorem Steady.convertingFaults {caught : Kind → Bool} {error : Fault → ConversionError}
    (steady : run.Steady related) : (Run.convertingFaults caught error run).Steady related := by
  refine steady.reify.bind fun result => ?_
  cases result with
  | ok value => exact steady_pure value
  | error failure =>
    cases failure with
    | conversion error => exact steady_fail _
    | fault cause =>
      by_cases isCaught : caught cause.kind = true
      · simp only [isCaught, if_true]
        exact steady_fail _
      · simp only [isCaught]
        exact steady_fail _

end Run
end InkToScreen
