import InkToScreen.Proofs.Conversion.Stage

namespace InkToScreen.Input
variable {lib : Library} {α : Type} {path : Path} {before between after : World lib}

/-- The tree once a picture is open: the file of a fleeting one is gone. -/
def treeWith (path : Path) (image : lib.Image) (files : Files lib.Content) : Files lib.Content :=
  if lib.isFleeting image then
    match files.locate path with
    | .ok place => files.remove place
    | .error _ => files
  else files

/-- Opening the input ends with a picture or with a fault as it was first reported. -/
inductive Opens (path : Path) (before : World lib) : Except Fault lib.Image → World lib → Prop
  | blocked {error : SystemError} (checked : before.files.namesFile path = .error error) :
      Opens path before (.error (.system error)) before
  | absent (checked : before.files.namesFile path = .ok false) :
      Opens path before (.error (.absent path)) before
  | refused {cause : Fault} {after : World lib}
      (checked : before.files.namesFile path = .ok true)
      (asked : Answered (lib.openImage path (before.files.readable? path)) before
        (.error cause) after) :
      Opens path before (.error cause) after
  | opened {image : lib.Image} {between : World lib}
      (checked : before.files.namesFile path = .ok true)
      (asked : Answered (lib.openImage path (before.files.readable? path)) before
        (.ok image) between) :
      Opens path before (.ok image)
        { between with files := treeWith path image between.files }

theorem Opens.total (path : Path) (before : World lib) :
    ∃ given after, Opens path before given after := by
  cases checked : before.files.namesFile path with
  | error error => exact ⟨_, _, .blocked checked⟩
  | ok isFile =>
    cases isFile with
    | false => exact ⟨_, _, .absent checked⟩
    | true =>
      obtain ⟨given, after, asked⟩ :=
        Answered.total (lib.openImage path (before.files.readable? path)) before
      cases given with
      | error cause => exact ⟨_, _, .refused checked asked⟩
      | ok image => exact ⟨_, _, .opened checked asked⟩

theorem Opens.umask {given : Except Fault lib.Image} (opening : Opens path before given after) :
    after.umask = before.umask := by
  cases opening with
  | blocked checked => rfl
  | absent checked => rfl
  | refused checked asked => exact asked.sameSystem.umask
  | opened checked asked => exact asked.sameSystem.umask

theorem openingFault_system (path : Path) (error : SystemError) :
    openingFault path (.system error) = .system error := by
  obtain ⟨code, paths⟩ := error
  cases code <;> rfl

theorem content?_ends (checked : before.files.namesFile path = .ok true) :
    (content? path).Ends before (.ok (before.files.readable? path)) before := by
  refine (Run.ends_look before).bind ?_
  simp only [checked]
  exact Run.ends_pure _ before

private theorem vanish_ends (path : Path) (image : lib.Image) (before : World lib) :
    (do
      if lib.isFleeting image then
        let world ← Run.look
        match world.files.locate path with
        | .ok place => Run.setFiles (world.files.remove place)
        | .error _ => pure ()
      return image : Run lib lib.Image).Ends before (.ok image)
        { before with files := treeWith path image before.files } := by
  unfold treeWith
  by_cases fleeting : lib.isFleeting image = true
  · simp only [fleeting, if_true]
    refine (Run.ends_look before).bind ?_
    cases before.files.locate path with
    | ok place => exact (Run.ends_setFiles _ before).bind (Run.ends_pure image _)
    | error obstacle => exact Run.ends_pure image before
  · simp only [fleeting]
    exact Run.ends_pure image before

/-- The run that opens the input ends as opening does, a fault being put in words of its own. -/
theorem Opens.ends {given : Except Fault lib.Image} (opening : Opens path before given after) :
    (openImage path).Ends before (given.mapError fun cause => .fault (openingFault path cause))
      after := by
  unfold openImage
  cases opening with
  | @blocked error checked =>
    refine Run.Ends.bind_error ((Run.ends_look before).bind ?_)
    simp only [checked, openingFault_system]
    exact Run.ends_fail _ before
  | absent checked =>
    refine Run.Ends.bind_error ((Run.ends_look before).bind ?_)
    simp only [checked]
    exact Run.ends_fail _ before
  | refused checked asked =>
    refine (content?_ends checked).bind ((Run.ends_ask (.openImage path) asked).reify.bind ?_)
    exact Run.ends_fail _ after
  | @opened image between checked asked =>
    refine (content?_ends checked).bind ((Run.ends_ask (.openImage path) asked).reify.bind ?_)
    exact vanish_ends path image between

/-- An input that opens does so in one way only. -/
theorem Opens.unique_ok {given : Except Fault lib.Image} {image : lib.Image} {other : World lib}
    (one : Opens path before given after) (two : Opens path before (.ok image) other) :
    given = .ok image ∧ after = other := by
  obtain ⟨same, reached⟩ := one.ends.unique two.ends
  cases given with
  | error cause => cases same
  | ok opened => exact ⟨congrArg Except.ok (Except.ok.inj same), reached⟩

theorem use_ends {image : lib.Image} {work : Input lib → Run lib α} {result : Except Failure α}
    (opening : Opens path before (.ok image) between)
    (worked : (work (ofImage path image between.files)).Ends between result after) :
    (use path work).Ends before result after := by
  refine opening.ends.bind (Run.Ends.ensuring_close .input image ?_)
  exact (Run.ends_look between).bind ((Run.ends_note _ between).bind worked)

theorem use_ends_error {work : Input lib → Run lib α} {cause : Fault}
    (opening : Opens path before (.error cause) after) :
    (use path work).Ends before (.error (.fault (openingFault path cause))) after :=
  opening.ends.bind_error

end InkToScreen.Input
