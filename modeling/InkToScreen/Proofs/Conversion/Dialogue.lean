import InkToScreen.Proofs.Conversion.Opening

/-! What a run and the library say to each other. Every call gets a reply in the world that the
calls before it have left. -/
namespace InkToScreen
variable {lib : Library} {α β : Type}

namespace Call

/-- What a call is answered with, unless with a fault. -/
@[reducible]
def Reply : Call lib → Type
  | openImage _ => lib.Image
  | load _ => Unit
  | builtinProfile => lib.Profile
  | parseProfile _ => lib.Profile
  | openProfile _ => lib.Profile
  | supportsIntent _ _ => Int
  | defaultIntent _ => Int
  | buildTransform _ _ _ _ => lib.Transform
  | applyTransform _ _ => Option lib.Image
  | profileBytes _ => lib.Blob
  | encode _ _ _ => Encoding lib.Content
  | close _ _ => Unit

/-- The library's answer to a call that is made while the files are as given. -/
def answer (files : Files lib.Content) : (call : Call lib) → Answer lib.Memory call.Reply
  | openImage path => lib.openImage path (files.readable? path)
  | load image => lib.load image
  | builtinProfile => lib.builtinProfile
  | parseProfile bytes => lib.parseProfile bytes
  | openProfile path => lib.openProfile path (files.readable? path)
  | supportsIntent profile intent => lib.supportsIntent profile intent
  | defaultIntent profile => lib.defaultIntent profile
  | buildTransform source target direction intent =>
    lib.buildTransform source target direction intent
  | applyTransform image transform => lib.applyTransform image transform
  | profileBytes profile => lib.profileBytes profile
  | encode image options _ => fun memory =>
    (.ok (lib.encode image options memory).1, (lib.encode image options memory).2)
  | close _ _ => fun memory => (.ok (), memory)

end Call

/-- A call with the reply to it. -/
structure Exchange (lib : Library) where
  call : Call lib
  reply : Except Fault call.Reply

section Handles

/-- The handle that a call works on. -/
def Call.handle? : Call lib → Option (Handle × lib.Image)
  | .load image => some (.input, image)
  | .applyTransform image _ => some (.input, image)
  | .encode image _ _ => some (.result, image)
  | .close handle image => some (handle, image)
  | _ => none

/-- The handle that a reply hands out: that of the input, or that of the picture made from it. -/
def Exchange.handed? : Exchange lib → Option (Handle × lib.Image)
  | ⟨.openImage _, .ok image⟩ => some (.input, image)
  | ⟨.applyTransform _ _, .ok (some result)⟩ => some (.result, result)
  | _ => none

def Exchange.closed? : Exchange lib → Option (Handle × lib.Image)
  | ⟨.close handle image, _⟩ => some (handle, image)
  | _ => none

def handedOut (made : List (Exchange lib)) : List (Handle × lib.Image) :=
  made.filterMap Exchange.handed?

def closed (made : List (Exchange lib)) : List (Handle × lib.Image) :=
  made.filterMap Exchange.closed?

theorem handedOut_append (first second : List (Exchange lib)) :
    handedOut (first ++ second) = handedOut first ++ handedOut second :=
  List.filterMap_append

theorem closed_append (first second : List (Exchange lib)) :
    closed (first ++ second) = closed first ++ closed second :=
  List.filterMap_append

end Handles

/-- The tree after a reply: the file of a fleeting picture that has been opened is gone. -/
def Exchange.tree (files : Files lib.Content) : Exchange lib → Files lib.Content
  | ⟨.openImage path, .ok image⟩ => Input.treeWith path image files
  | _ => files

/-- Exchanges that follow each other, from one world to another. What the encoder writes is left
out: no call reads it again. -/
inductive Dialogue : World lib → List (Exchange lib) → World lib → Prop
  | silent (world : World lib) : Dialogue world [] world
  | exchange {call : Call lib} {reply : Except Fault call.Reply}
      (answered : Answered (call.answer before.files) before reply between)
      (rest : Dialogue { between with files := Exchange.tree between.files ⟨call, reply⟩ } more
        after) :
      Dialogue before (⟨call, reply⟩ :: more) after

namespace Dialogue
variable {before between after : World lib} {first second : List (Exchange lib)}

theorem single {call : Call lib} {reply : Except Fault call.Reply}
    (answered : Answered (call.answer before.files) before reply between) :
    Dialogue before [⟨call, reply⟩]
      { between with files := Exchange.tree between.files ⟨call, reply⟩ } :=
  .exchange answered (.silent _)

theorem append (early : Dialogue before first between) (late : Dialogue between second after) :
    Dialogue before (first ++ second) after := by
  induction early with
  | silent world => exact late
  | exchange answered rest ih => exact .exchange answered (ih late)

/-- The library gives the same replies to the same calls. -/
theorem unique {other : World lib} (one : Dialogue before first after)
    (two : Dialogue before second other)
    (calls : first.map Exchange.call = second.map Exchange.call) :
    first = second ∧ after = other := by
  induction one generalizing second with
  | silent world =>
    cases two with
    | silent => exact ⟨rfl, rfl⟩
    | exchange => simp at calls
  | @exchange before between more after call reply answered rest ih =>
    cases two with
    | silent => simp at calls
    | exchange again restAgain =>
      simp only [List.map_cons, List.cons.injEq] at calls
      obtain ⟨rfl, sameCalls⟩ := calls
      obtain ⟨rfl, rfl⟩ := answered.unique again
      obtain ⟨rfl, rfl⟩ := ih restAgain sameCalls
      exact ⟨rfl, rfl⟩

end Dialogue

/-- A run from one world makes these exchanges, which leave the library in another. -/
def Run.Speaks (run : Run lib α) (before : World lib) (made : List (Exchange lib))
    (after : World lib) : Prop :=
  (run before).calls = made.map Exchange.call ∧ Dialogue before made after

namespace Run
variable {before between : World lib} {value : α} {failure : Failure} {run : Run lib α}

/-- A run makes no calls, whatever the world. -/
def Quiet (run : Run lib α) : Prop :=
  ∀ world, (run world).calls = []

theorem calls_bind (ended : run.Ends before (.ok value) between) (next : α → Run lib β) :
    ((run >>= next) before).calls = (run before).calls ++ (next value between).calls := by
  obtain ⟨valued, reached⟩ := ended
  change (Run.bind run next before).calls = _
  unfold Run.bind
  cases done : run before with
  | mk result world notices calls =>
    rw [done] at valued reached
    cases valued
    cases reached
    rfl

theorem calls_bind_error (failed : (run before).result = .error failure) (next : α → Run lib β) :
    ((run >>= next) before).calls = (run before).calls := by
  change (Run.bind run next before).calls = _
  unfold Run.bind
  cases done : run before with
  | mk result world notices calls =>
    rw [done] at failed
    cases failed
    rfl

/-- Going on without calls leaves the calls as they are, however the first run ends. -/
theorem calls_bind_of_quiet {next : α → Run lib β} (quiet : ∀ value, (next value).Quiet) :
    ((run >>= next) before).calls = (run before).calls := by
  cases ended : (run before).result with
  | ok value => rw [calls_bind ⟨ended, rfl⟩, quiet, List.append_nil]
  | error failure => exact calls_bind_error ended next

theorem Quiet.bind {next : α → Run lib β} (first : run.Quiet)
    (rest : ∀ value, (next value).Quiet) : (run >>= next).Quiet :=
  fun world => (calls_bind_of_quiet rest).trans (first world)

/-- A picture is closed last, however a run ends. -/
theorem calls_ensuring_close (run : Run lib α) (handle : Handle) (image : lib.Image) :
    (ensuring run (close handle image) before).calls =
      (run before).calls ++ [.close handle image] := by
  have ended : (Run.reify run).Ends before (.ok (run before).result) (run before).world :=
    ⟨rfl, rfl⟩
  change ((Run.reify run >>= fun result => close handle image >>= fun _ => ofExcept result)
    before).calls = _
  rw [calls_bind ended, calls_bind_of_quiet fun _ _ => rfl]
  rfl

theorem calls_convertingFaults (run : Run lib α) (caught : Kind → Bool)
    (error : Fault → ConversionError) :
    (convertingFaults caught error run before).calls = (run before).calls := by
  refine calls_bind_of_quiet fun result world => ?_
  cases result with
  | ok value => rfl
  | error failure =>
    cases failure with
    | conversion error => rfl
    | fault cause =>
      cases isCaught : caught cause.kind with
      | true => simp only [isCaught, if_true]; rfl
      | false => simp only [isCaught]; rfl

end Run
end InkToScreen
