import InkToScreen.Proofs.Conversion.Steps

namespace InkToScreen
variable {lib : Library} {α β : Type}

/-- A run makes the calls of a record, and the library gives the replies that stand in it. -/
structure Run.Takes (run : Run lib α) (before : World lib) (record : List (Entry lib))
    (after : World lib) : Prop where
  calls : (run before).calls = record.map Entry.call
  dialogue : Dialogue before (record.map Entry.exchange) after

/-- The transcript of a run: how it ends, the calls it makes with the replies to them, and the
notices it gives. -/
structure Run.Traces (run : Run lib α) (before : World lib) (result : Except Failure α)
    (record : List (Entry lib)) (notices : List Notice) (after : World lib) : Prop
    extends Run.Takes run before record after where
  ends : run.Ends before result after
  notices : (run before).notices = notices

namespace Run
variable {before between after : World lib} {value : α} {failure : Failure} {run : Run lib α}
  {next : α → Run lib β} {record : List (Entry lib)}

theorem Takes.speaks (taken : run.Takes before record after) :
    run.Speaks before (record.map Entry.exchange) after := by
  refine ⟨?_, taken.dialogue⟩
  rw [taken.calls, List.map_map]
  rfl

theorem Takes.quiet (quiet : (run before).calls = []) : run.Takes before [] before :=
  ⟨quiet, .silent before⟩

theorem Takes.bind_quiet (taken : run.Takes before record after)
    (quiet : ∀ value, (next value).Quiet) : (run >>= next).Takes before record after :=
  ⟨(calls_bind_of_quiet quiet).trans taken.calls, taken.dialogue⟩

theorem Takes.bind_error (taken : run.Takes before record after)
    (failed : (run before).result = .error failure) : (run >>= next).Takes before record after :=
  ⟨(calls_bind_error failed next).trans taken.calls, taken.dialogue⟩

theorem notices_bind (ended : run.Ends before (.ok value) between) (next : α → Run lib β) :
    ((run >>= next) before).notices = (run before).notices ++ (next value between).notices := by
  obtain ⟨valued, reached⟩ := ended
  change (Run.bind run next before).notices = _
  unfold Run.bind
  cases done : run before with
  | mk result world notices calls =>
    rw [done] at valued reached
    cases valued
    cases reached
    rfl

theorem notices_bind_error (failed : (run before).result = .error failure)
    (next : α → Run lib β) : ((run >>= next) before).notices = (run before).notices := by
  change (Run.bind run next before).notices = _
  unfold Run.bind
  cases done : run before with
  | mk result world notices calls =>
    rw [done] at failed
    cases failed
    rfl

/-- Closing a picture at last gives no notice. -/
theorem notices_ensuring_close (run : Run lib α) (handle : Handle) (image : lib.Image) :
    (ensuring run (close handle image) before).notices = (run before).notices := by
  have ended : (Run.reify run).Ends before (.ok (run before).result) (run before).world :=
    ⟨rfl, rfl⟩
  exact (notices_bind ended _).trans (List.append_nil _)

theorem notices_convertingFaults (run : Run lib α) (caught : Kind → Bool)
    (error : Fault → ConversionError) :
    (convertingFaults caught error run before).notices = (run before).notices := by
  have ended : (Run.reify run).Ends before (.ok (run before).result) (run before).world :=
    ⟨rfl, rfl⟩
  refine (notices_bind ended _).trans ?_
  -- what becomes of the failure is not reported
  refine (congrArg ((run before).notices ++ ·) ?_).trans (List.append_nil _)
  cases (run before).result with
  | ok value => rfl
  | error failure =>
    cases failure with
    | conversion error => rfl
    | fault cause =>
      cases isCaught : caught cause.kind with
      | true => simp only [isCaught, if_true]; rfl
      | false => simp only [isCaught]; rfl

namespace Traces
variable {made more : List (Entry lib)} {notices further : List Notice}
  {result : Except Failure α} {last : Except Failure β}

theorem pure (value : α) (before : World lib) :
    (Pure.pure value : Run lib α).Traces before (.ok value) [] [] before :=
  ⟨.quiet rfl, ⟨rfl, rfl⟩, rfl⟩

theorem fail (failure : Failure) (before : World lib) :
    (Run.fail failure : Run lib α).Traces before (.error failure) [] [] before :=
  ⟨.quiet rfl, ⟨rfl, rfl⟩, rfl⟩

theorem ofExcept (result : Except Failure α) (before : World lib) :
    (Run.ofExcept result : Run lib α).Traces before result [] [] before :=
  ⟨.quiet rfl, ⟨rfl, rfl⟩, rfl⟩

/-- A run that fails has a transcript without entries, and no other. -/
theorem eq_of_fail {failure : Failure} {result : Except Failure α}
    (traced : (Run.fail failure : Run lib α).Traces before result made notices after) :
    result = .error failure ∧ made = [] ∧ notices = [] ∧ after = before :=
  ⟨traced.ends.1.symm, List.map_eq_nil_iff.mp traced.calls.symm, traced.notices.symm,
    traced.ends.2.symm⟩

theorem bind (first : run.Traces before (.ok value) made notices between)
    (rest : (next value).Traces between last more further after) :
    (run >>= next).Traces before last (made ++ more) (notices ++ further) after where
  calls := by rw [calls_bind first.ends, first.calls, rest.calls, List.map_append]
  dialogue := by
    rw [List.map_append]
    exact first.dialogue.append rest.dialogue
  ends := first.ends.bind rest.ends
  notices := by rw [notices_bind first.ends, first.notices, rest.notices]

/-- What comes first without a notice leaves it to the rest to give some. -/
theorem mute_bind (first : run.Traces before (.ok value) made [] between)
    (rest : (next value).Traces between last more further after) :
    (run >>= next).Traces before last (made ++ more) further after :=
  first.bind rest

theorem bind_mute (first : run.Traces before (.ok value) made notices between)
    (rest : (next value).Traces between last more [] after) :
    (run >>= next).Traces before last (made ++ more) notices after := by
  have both := first.bind rest
  rwa [List.append_nil] at both

/-- A run that has a value may go on in silence. -/
theorem bind_silent (first : run.Traces before (.ok value) made notices after)
    (rest : (next value).Traces after last [] [] after) :
    (run >>= next).Traces before last made notices after := by
  have both := first.bind_mute rest
  rwa [List.append_nil] at both

theorem bind_error (first : run.Traces before (.error failure) made notices after) :
    (run >>= next).Traces before (.error failure) made notices after where
  calls := (calls_bind_error first.ends.1 next).trans first.calls
  dialogue := first.dialogue
  ends := first.ends.bind_error
  notices := (notices_bind_error first.ends.1 next).trans first.notices

theorem look {next : World lib → Run lib β}
    (rest : (next before).Traces before last more further after) :
    (Run.look >>= next).Traces before last more further after where
  calls := rest.calls
  dialogue := rest.dialogue
  ends := (ends_look before).bind rest.ends
  notices := rest.notices

theorem note {rest : Run lib β} (notice : Notice)
    (noted : rest.Traces before last more further after) :
    (Run.note notice >>= fun _ => rest).Traces before last more (notice :: further) after where
  calls := noted.calls
  dialogue := noted.dialogue
  ends := (ends_note notice before).bind noted.ends
  notices := congrArg (notice :: ·) noted.notices

theorem reify (first : run.Traces before result made notices after) :
    (Run.reify run).Traces before (.ok result) made notices after where
  calls := first.calls
  dialogue := first.dialogue
  ends := first.ends.reify
  notices := first.notices

theorem convertingFaults {given : Except Fault α} {caught : Kind → Bool}
    {error : Fault → ConversionError}
    (first : run.Traces before (given.mapError .fault) made notices after) :
    (Run.convertingFaults caught error run).Traces before
      (given.mapError (Failure.ofFault caught error)) made notices after where
  calls := (calls_convertingFaults run caught error).trans first.calls
  dialogue := first.dialogue
  ends := first.ends.convertingFaults given caught error
  notices := (notices_convertingFaults run caught error).trans first.notices

section Asking
variable {call : Call lib} {reply : call.Reply} {cause : Fault} {go : call.Reply → Run lib β}

/-- A call that leaves the tree alone makes one entry. -/
theorem ask (step : Step) (call : Call lib) {reply : Except Fault call.Reply}
    (answered : Answered (call.answer before.files) before reply after)
    (kept : Exchange.tree after.files ⟨call, reply⟩ = after.files) :
    (Run.ask call (call.answer before.files)).Traces before (reply.mapError .fault)
      [⟨step, call, reply⟩] [] after where
  calls := rfl
  dialogue := by
    have single := Dialogue.single answered
    rw [kept] at single
    exact single
  ends := ends_ask call answered
  notices := rfl

/-- What goes on from the reply to a call follows the one entry. -/
theorem ask_bind (step : Step)
    (answered : Answered (call.answer before.files) before (.ok reply) between)
    (kept : Exchange.tree between.files ⟨call, .ok reply⟩ = between.files)
    (rest : (go reply).Traces between last more further after) :
    (Run.ask call (call.answer before.files) >>= go).Traces before last
      (⟨step, call, .ok reply⟩ :: more) further after :=
  (Traces.ask step call answered kept).mute_bind rest

/-- A call that is answered with a fault is the last entry. -/
theorem ask_bind_error (step : Step)
    (answered : Answered (call.answer before.files) before (.error cause) after)
    (kept : Exchange.tree after.files ⟨call, .error cause⟩ = after.files) :
    (Run.ask call (call.answer before.files) >>= go).Traces before (.error (.fault cause))
      [⟨step, call, .error cause⟩] [] after :=
  (Traces.ask step call answered kept).bind_error

end Asking
end Traces
end Run
end InkToScreen
