import InkToScreen.Imaging.Run

namespace InkToScreen.Run
variable {lib : Library} {α β : Type} {allowed : Notice → Prop} {run : Run lib α}

/-- From every world a run gives notices of one sort only. -/
def Gives (allowed : Notice → Prop) (run : Run lib α) : Prop :=
  ∀ world, ∀ notice ∈ (run world).notices, allowed notice

theorem gives_of_silent (silent : ∀ world, (run world).notices = []) : run.Gives allowed := by
  intro world notice member
  rw [silent world] at member
  cases member

theorem gives_pure (value : α) : (pure value : Run lib α).Gives allowed :=
  gives_of_silent fun _ => rfl

theorem gives_fail (failure : Failure) : (fail failure : Run lib α).Gives allowed :=
  gives_of_silent fun _ => rfl

theorem gives_ofExcept (result : Except Failure α) : (ofExcept result : Run lib α).Gives allowed :=
  gives_of_silent fun _ => rfl

theorem gives_look : (look : Run lib (World lib)).Gives allowed :=
  gives_of_silent fun _ => rfl

theorem gives_setFiles (files : Files lib.Content) : (setFiles files).Gives allowed :=
  gives_of_silent fun _ => rfl

theorem gives_setUmask (umask : Permissions) :
    (setUmask umask : Run lib Permissions).Gives allowed :=
  gives_of_silent fun _ => rfl

theorem gives_ask (call : Call lib) (answer : Answer lib.Memory α) :
    (ask call answer).Gives allowed :=
  gives_of_silent fun _ => rfl

theorem gives_close (handle : Handle) (image : lib.Image) : (close handle image).Gives allowed :=
  gives_ask _ _

theorem gives_note {notice : Notice} (fits : allowed notice) :
    (note notice : Run lib Unit).Gives allowed := by
  intro world other member
  obtain rfl := List.mem_singleton.mp member
  exact fits

theorem Gives.bind {next : α → Run lib β} (first : run.Gives allowed)
    (rest : ∀ value, (next value).Gives allowed) : (run >>= next).Gives allowed := by
  intro world notice member
  change notice ∈ (Run.bind run next world).notices at member
  unfold Run.bind at member
  cases done : run world with
  | mk result reached notices calls =>
    have early : ∀ notice ∈ notices, allowed notice := by
      have given := first world
      rw [done] at given
      exact given
    rw [done] at member
    cases result with
    | error failure => exact early notice member
    | ok value =>
      rcases List.mem_append.mp member with inFirst | inRest
      · exact early notice inFirst
      · exact rest value reached notice inRest

/-- A run that gives no notice of any sort gives none. -/
theorem Gives.notices_eq_nil (given : run.Gives fun _ => False) (world : World lib) :
    (run world).notices = [] :=
  List.eq_nil_iff_forall_not_mem.mpr (given world)

theorem Gives.map {change : α → β} (given : run.Gives allowed) : (change <$> run).Gives allowed :=
  given.bind fun value => gives_pure (change value)

theorem Gives.reify (given : run.Gives allowed) : (Run.reify run).Gives allowed :=
  fun world notice member => given world notice member

theorem Gives.ensuring {last : Run lib Unit} (given : run.Gives allowed)
    (ending : last.Gives allowed) : (Run.ensuring run last).Gives allowed :=
  given.reify.bind fun result => ending.bind fun _ => gives_ofExcept result

theorem Gives.convertingFaults {caught : Kind → Bool} {error : Fault → ConversionError}
    (given : run.Gives allowed) : (Run.convertingFaults caught error run).Gives allowed := by
  refine given.reify.bind fun result => ?_
  cases result with
  | ok value => exact gives_pure value
  | error failure =>
    cases failure with
    | conversion error => exact gives_fail _
    | fault cause =>
      by_cases isCaught : caught cause.kind = true
      · simp only [isCaught, if_true]
        exact gives_fail _
      · simp only [isCaught]
        exact gives_fail _

/-- A run gives one notice if it succeeds, and none otherwise. -/
def Signs (notice : Notice) (run : Run lib α) : Prop :=
  ∀ world, (run world).notices = match (run world).result with
    | .ok _ => [notice]
    | .error _ => []

/-- What comes first without a notice leaves it to the rest to give one. -/
theorem Gives.bind_signs {notice : Notice} {next : α → Run lib β}
    (silent : run.Gives fun _ => False) (rest : ∀ value, (next value).Signs notice) :
    (run >>= next).Signs notice := by
  intro world
  have none := silent.notices_eq_nil world
  change (Run.bind run next world).notices = match (Run.bind run next world).result with
    | .ok _ => [notice]
    | .error _ => []
  unfold Run.bind
  cases done : run world with
  | mk result reached notices calls =>
    rw [done] at none
    cases none
    cases result with
    | error failure => rfl
    | ok value => exact rest value reached

/-- A run that fails without a notice gives none, whatever becomes of the failure. -/
theorem signs_convertingFaults_fail (notice : Notice) (caught : Kind → Bool)
    (error : Fault → ConversionError) (failure : Failure) :
    (Run.convertingFaults caught error (fail failure : Run lib α)).Signs notice := by
  cases failure with
  | conversion error => exact fun _ => rfl
  | fault cause =>
    have fails : Run.convertingFaults caught error (fail (.fault cause) : Run lib α) =
        fun world => (if caught cause.kind = true then fail (.conversion (error cause))
          else fail (.fault cause)) world := rfl
    rw [fails]
    intro world
    by_cases isCaught : caught cause.kind = true
    · simp only [isCaught, if_true]
      rfl
    · simp only [isCaught]
      rfl

end InkToScreen.Run
