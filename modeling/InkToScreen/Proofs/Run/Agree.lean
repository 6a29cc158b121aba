import InkToScreen.Proofs.Run.Ends

/-! Two runs side by side. They agree if they end with the same result, give the same notices, make
the same calls and end in related worlds. -/
namespace InkToScreen
variable {lib : Library} {α β : Type}

structure Outcome.Agrees (related : World lib → World lib → Prop) (one two : Outcome lib α) :
    Prop where
  result : one.result = two.result
  notices : one.notices = two.notices
  calls : one.calls = two.calls
  world : related one.world two.world

theorem Outcome.Agrees.eq {one two : Outcome lib α} (agrees : one.Agrees Eq two) : one = two := by
  cases one
  cases two
  obtain ⟨rfl, rfl, rfl, rfl⟩ := agrees
  rfl

namespace Run

/-- One run from here agrees with the other from there. -/
def Agree (related : World lib → World lib → Prop) (one : Run lib α) (here : World lib)
    (two : Run lib α) (there : World lib) : Prop :=
  (one here).Agrees related (two there)

section Rules
variable {related later : World lib → World lib → Prop} {here there reached : World lib}
  {one two : Run lib α} {next follow : α → Run lib β} {value : α}

theorem agree_refl (run : Run lib α) (world : World lib) : Agree Eq run world run world :=
  ⟨rfl, rfl, rfl, rfl⟩

/-- Runs that agree so far agree as far as what comes next does. -/
theorem Agree.bind_of (first : Agree related one here two there)
    (failed : ∀ failure reached elsewhere, one.Ends here (.error failure) reached →
      related reached elsewhere → later reached elsewhere)
    (rest : ∀ value reached elsewhere, one.Ends here (.ok value) reached →
      related reached elsewhere → Agree later (next value) reached (follow value) elsewhere) :
    Agree later (one >>= next) here (two >>= follow) there := by
  obtain ⟨sameResult, sameNotices, sameCalls, worlds⟩ := first
  change (Run.bind one next here).Agrees later (Run.bind two follow there)
  unfold Run.bind
  cases done : one here with
  | mk result world notices calls =>
    cases again : two there with
    | mk resultAgain worldAgain noticesAgain callsAgain =>
      rw [done, again] at sameResult sameNotices sameCalls worlds
      cases sameResult
      cases sameNotices
      cases sameCalls
      cases result with
      | error failure =>
        refine ⟨rfl, rfl, rfl, failed failure world worldAgain ?_ worlds⟩
        simp only [Ends, done, and_self]
      | ok value =>
        have ended : one.Ends here (.ok value) world := by
          simp only [Ends, done, and_self]
        obtain ⟨last, moreNotices, moreCalls, ending⟩ := rest value world worldAgain ended worlds
        exact ⟨last, congrArg (notices ++ ·) moreNotices, congrArg (calls ++ ·) moreCalls, ending⟩

theorem Agree.bind (first : Agree related one here two there)
    (rest : ∀ value reached elsewhere, one.Ends here (.ok value) reached →
      related reached elsewhere → Agree related (next value) reached (follow value) elsewhere) :
    Agree related (one >>= next) here (two >>= follow) there :=
  first.bind_of (fun _ _ _ _ worlds => worlds) rest

/-- What comes next has to agree only after the value that there is. -/
theorem Agree.bind_ok (first : Agree related one here two there)
    (ended : one.Ends here (.ok value) reached)
    (rest : ∀ elsewhere, related reached elsewhere →
      Agree later (next value) reached (follow value) elsewhere) :
    Agree later (one >>= next) here (two >>= follow) there := by
  refine first.bind_of ?_ ?_
  · intro failure other elsewhere failed _
    cases (ended.unique failed).1
  · intro other world elsewhere again worlds
    obtain ⟨same, rfl⟩ := ended.unique again
    obtain rfl := Except.ok.inj same
    exact rest elsewhere worlds

/-- Two runs that begin alike agree if what they go on with does. -/
theorem agree_after (ended : one.Ends here (.ok value) reached)
    (rest : Agree Eq (next value) reached (follow value) reached) :
    Agree Eq (one >>= next) here (one >>= follow) here := by
  refine (agree_refl one here).bind_ok ended ?_
  rintro _ rfl
  exact rest

/-- Two runs that fail alike from the start agree. -/
theorem agree_of_failed {failure : Failure} (ended : one.Ends here (.error failure) reached) :
    Agree Eq (one >>= next) here (one >>= follow) here := by
  refine (agree_refl one here).bind fun value other elsewhere again _ => ?_
  cases (ended.unique again).1

theorem Agree.reify (first : Agree related one here two there) :
    Agree related (Run.reify one) here (Run.reify two) there :=
  ⟨congrArg Except.ok first.result, first.notices, first.calls, first.world⟩

/-- A run that closes a picture at last agrees as it would have without. -/
theorem Agree.ensuring_close (first : Agree related one here two there) (handle : Handle)
    (image : lib.Image) :
    Agree related (Run.ensuring one (Run.close handle image)) here
      (Run.ensuring two (Run.close handle image)) there :=
  first.reify.bind fun _ _ _ _ worlds =>
    Agree.bind ⟨rfl, rfl, rfl, worlds⟩ fun _ _ _ _ worlds => ⟨rfl, rfl, rfl, worlds⟩

end Rules

end Run
end InkToScreen
