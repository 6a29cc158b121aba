import InkToScreen.Proofs.Conversion.Failures
import InkToScreen.Proofs.Conversion.Order

namespace InkToScreen
variable {lib : Library} {input : Path} {record : List (Entry lib)}

theorem Heard.handedOut {image : lib.Image}
    (opened : Heard record .openInput (.openImage input) image) :
    (.input, image) ∈ handedOut (record.map Entry.exchange) :=
  List.mem_filterMap.mpr ⟨_, List.mem_map.mpr ⟨_, opened, rfl⟩, rfl⟩

theorem Painted.handedOut {result : lib.Image} (painted : Painted record result) :
    (.result, result) ∈ handedOut (record.map Entry.exchange) := by
  cases painted with
  | intro heard => exact List.mem_filterMap.mpr ⟨_, List.mem_map.mpr ⟨_, heard, rfl⟩, rfl⟩

namespace Converter
variable {converter : Converter} {stem : String} {earlier : List (Entry lib)}
  {before after : World lib}

/-- A call that is due works on a handle that has been handed out. -/
theorem Due.handedOut {step : Step} {call : Call lib} {handle : Handle × lib.Image}
    (due : converter.Due input earlier step call) (works : call.handle? = some handle) :
    handle ∈ handedOut (earlier.map Entry.exchange) := by
  cases due with
  | decode opened | apply opened | closeInput opened =>
    obtain rfl := Option.some.inj works
    exact opened.handedOut
  | encode _ painted | closeResult painted =>
    obtain rfl := Option.some.inj works
    exact painted.handedOut
  | _ => cases works

/-- The step at which a handle is closed. -/
def closingStep : Handle → Step
  | .result => .closeResult
  | .input => .closeInput

theorem Due.step_of_close {step : Step} {handle : Handle} {image : lib.Image}
    (due : converter.Due input earlier step (.close handle image)) : step = closingStep handle := by
  cases due <;> rfl

/-- A call that works on a handle is made no later than the call that closes the handle. -/
theorem Due.rank_le_closingStep {step : Step} {call : Call lib} {handle : Handle × lib.Image}
    (due : converter.Due input earlier step call) (works : call.handle? = some handle) :
    step.rank ≤ (closingStep handle.1).rank := by
  cases due with
  | decode | apply | closeInput =>
    obtain rfl := Option.some.inj works
    exact Step.rank_le_closeInput _
  | encode | closeResult =>
    obtain rfl := Option.some.inj works
    simp [closingStep, Step.rank]
  | _ => cases works

theorem exists_close_of_mem_closed {handle : Handle × lib.Image}
    (member : handle ∈ closed (record.map Entry.exchange)) :
    ∃ entry ∈ record, entry.call = .close handle.1 handle.2 := by
  obtain ⟨exchange, made, closes⟩ := List.mem_filterMap.mp member
  obtain ⟨⟨step, call, reply⟩, taken, rfl⟩ := List.mem_map.mp made
  refine ⟨_, taken, ?_⟩
  cases call with
  | close which image =>
    obtain rfl := Option.some.inj closes
    rfl
  | _ => cases closes

/-- No call of a record works on a handle that has been closed. -/
theorem Follows.not_mem_closed (follows : converter.Follows input [] record)
    {first last : List (Entry lib)} {entry : Entry lib} {handle : Handle × lib.Image}
    (split : record = first ++ entry :: last) (works : entry.call.handle? = some handle) :
    handle ∉ closed (first.map Entry.exchange) := by
  intro member
  obtain ⟨closing, taken, closes⟩ := exists_close_of_mem_closed member
  have soon : closing.step.rank < entry.step.rank := by
    have ordered := follows.pairwise.1
    rw [split] at ordered
    exact (List.pairwise_append.mp ordered).2.2 closing taken entry List.mem_cons_self
  have late := (follows.due_of_split split).rank_le_closingStep works
  obtain ⟨sooner, due⟩ := follows.due_of_mem (split ▸ List.mem_append_left _ taken)
  rw [closes] at due
  rw [due.step_of_close] at soon
  exact Nat.not_le.mpr soon late

/-- A conversion stops at the bytes of the target only if the library cannot read them. -/
theorem Course.unread {cause : Fault}
    (taken : converter.Course input stem before (.stopped .profileBytes cause) after) :
    ∃ (profile : lib.Profile) (between last : World lib),
      Answered (lib.profileBytes profile) between (.error cause) last := by
  cases taken with
  | unstored _ _ _ _ stored => cases stored
  | untransformed _ _ _ transformed =>
    cases transformed with
    | unread rendered read => exact ⟨_, _, _, read⟩
    | unrendered rendered =>
      rcases rendered.stops with impossible | target | ⟨impossible, _⟩ | impossible | impossible
      · cases impossible
      · rcases converter.plan.targetStage_cases with builtin | ⟨profile, given⟩
        · rw [builtin] at target
          cases target
        · rw [given] at target
          cases target
      · cases impossible
      · cases impossible
      · cases impossible

/-- Handles are closed once, the last one first, and no call works on one before it is handed out or
after it is closed. Only when the bytes of the target cannot be read does one stay open. -/
theorem convert_closes_handles (converter : Converter) (input stem : String) (before : World lib)
    (readable : ∀ cause, ¬ converter.StopsAt (.ofText input) stem before .profileBytes cause) :
    ∃ made after, (converter.convert input stem).Speaks before made after ∧
      (handedOut made).map Prod.fst <+: [.input, .result] ∧
      closed made = (handedOut made).reverse ∧
      ∀ earlier exchange later, made = earlier ++ exchange :: later →
        ∀ handle, exchange.call.handle? = some handle →
          handle ∈ handedOut earlier ∧ handle ∉ closed earlier := by
  obtain ⟨verdict, reached, course⟩ := Course.total converter (.ofText input) stem before
  obtain ⟨record, after, handles, taken, keeps⟩ := course.takes
  have handed : handedOut (record.map Entry.exchange) = handles := keeps.goesOn.handed
  refine ⟨record.map Entry.exchange, after, (convert_takes taken).speaks, ?_, ?_, ?_⟩
  · rw [handed]
    exact keeps.handed
  · rw [handed]
    refine keeps.closes ?_
    rintro cause rfl
    exact readable cause ⟨reached, course⟩
  · intro earlier exchange later split handle works
    obtain ⟨first, rest, parts, rfl, same⟩ := List.map_eq_append_iff.mp split
    obtain ⟨entry, last, rfl, rfl, rfl⟩ := List.map_eq_cons_iff.mp same
    exact ⟨(keeps.goesOn.follows.due_of_split parts).handedOut works,
      keeps.goesOn.follows.not_mem_closed parts works⟩

end Converter

namespace Scripted

/-- A picture whose encoding is interrupted. -/
def interrupted : Image where
  mode := "CMYK"
  saveFault := some (.reported .interrupt "")

/-- An interruption of the encoder goes through, and both handles are closed all the same. -/
theorem convert_closes_when_interrupted :
    (∀ cause, ¬ converter.StopsAt (.ofText "in.tif") "out" (holding interrupted) .profileBytes
      cause) ∧
    (converter.convert "in.tif" "out" (holding interrupted)).result =
      .error (.fault (.reported .interrupt "")) ∧
    ∃ made after, (converter.convert "in.tif" "out").Speaks (holding interrupted) made after ∧
      closed made = (handedOut made).reverse := by
  have readable : ∀ cause, ¬ converter.StopsAt (.ofText "in.tif") "out" (holding interrupted)
      .profileBytes cause := by
    rintro cause ⟨after, taken⟩
    obtain ⟨profile, between, last, ⟨asked⟩⟩ := taken.unread
    cases asked
  obtain ⟨made, after, speaks, _, closes, _⟩ :=
    Converter.convert_closes_handles converter "in.tif" "out" (holding interrupted) readable
  exact ⟨readable, by decide +kernel, made, after, speaks, closes⟩

end Scripted
end InkToScreen
