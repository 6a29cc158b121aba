import InkToScreen.Proofs.Conversion.Steps

namespace InkToScreen
variable {lib : Library}

def Call.isEncode : Call lib → Bool
  | .encode _ _ _ => true
  | _ => false

/-- What only calls of the encoder show is shown by these calls alone. -/
theorem Call.filterMap_filter_isEncode {β : Type} {shown? : Call lib → Option β}
    (hidden : ∀ call : Call lib, call.isEncode = false → shown? call = none)
    (calls : List (Call lib)) :
    (calls.filter Call.isEncode).filterMap shown? = calls.filterMap shown? := by
  rw [List.filterMap_filter]
  congr 1
  funext call
  cases encodes : call.isEncode with
  | true => rfl
  | false => exact (hidden call encodes).symm

/-- A record goes on: further entries follow on it that stand before a place, and in which some
handles are handed out. -/
structure Converter.GoesOn (converter : Converter) (input : Path)
    (earlier record : List (Entry lib)) (rank : Nat) (handles : List (Handle × lib.Image)) :
    Prop where
  follows : converter.Follows input earlier record
  below : Below (earlier ++ record) rank
  handed : handedOut (record.map Entry.exchange) = handles

namespace Converter
variable {converter : Converter} {input : Path} {earlier first second : List (Entry lib)}
  {rank higher : Nat} {early late : List (Handle × lib.Image)}

namespace GoesOn

theorem append (goes : converter.GoesOn input earlier first rank early)
    (further : converter.GoesOn input (earlier ++ first) second higher late) :
    converter.GoesOn input earlier (first ++ second) higher (early ++ late) where
  follows := goes.follows.append further.follows
  below := by
    rw [← List.append_assoc]
    exact further.below
  handed := by rw [List.map_append, handedOut_append, goes.handed, further.handed]

theorem done (below : Below earlier rank) : converter.GoesOn input earlier [] rank [] where
  follows := .done
  below := by simpa using below
  handed := rfl

theorem entry {step : Step} {call : Call lib} {reply : Except Fault call.Reply}
    (due : converter.Due input earlier step call) (below : Below earlier step.rank)
    (higher : step.rank < rank) :
    converter.GoesOn input earlier [⟨step, call, reply⟩] rank (handedOut [⟨call, reply⟩]) where
  follows := .single due below
  below := Below.push below higher
  handed := rfl

theorem mono (goes : converter.GoesOn input earlier first rank early) (more : rank ≤ higher) :
    converter.GoesOn input earlier first higher early :=
  { goes with below := goes.below.mono more }

end GoesOn

theorem Due.closed? {step : Step} {call : Call lib}
    (due : converter.Due input earlier step call) (reply : Except Fault call.Reply)
    (early : step.rank < Step.closeResult.rank) : Exchange.closed? ⟨call, reply⟩ = none := by
  cases due with
  | closeResult | closeInput => exact absurd early (by decide)
  | _ => rfl

theorem opens_goesOn (converter : Converter) (input : Path) (image : lib.Image) :
    converter.GoesOn input [] [⟨.openInput, .openImage input, .ok image⟩] Step.decode.rank
      [(.input, image)] :=
  .entry .openInput (.nil _) (by decide)

/-- Nothing is closed before the steps that close. -/
theorem GoesOn.closed_eq_nil (goes : converter.GoesOn input earlier first rank early)
    (more : rank ≤ Step.closeResult.rank) : closed (first.map Entry.exchange) = [] := by
  refine List.filterMap_eq_nil_iff.mpr fun exchange member => ?_
  obtain ⟨entry, taken, rfl⟩ := List.mem_map.mp member
  obtain ⟨sooner, due⟩ := goes.follows.due_of_mem taken
  exact due.closed? entry.reply (Nat.lt_of_lt_of_le (goes.below.right entry taken) more)

theorem Due.isEncode_eq_false {step : Step} {call : Call lib}
    (due : converter.Due input earlier step call) (early : step.rank < Step.encode.rank) :
    call.isEncode = false := by
  cases due with
  | encode => exact absurd early (Nat.lt_irrefl _)
  | _ => rfl

/-- The encoder is not called before the step that encodes. -/
theorem GoesOn.filter_isEncode_eq_nil (goes : converter.GoesOn input earlier first rank early)
    (more : rank ≤ Step.encode.rank) : (first.map Entry.call).filter Call.isEncode = [] := by
  refine List.filter_eq_nil_iff.mpr fun call member => Bool.eq_false_iff.mp ?_
  obtain ⟨entry, taken, rfl⟩ := List.mem_map.mp member
  obtain ⟨sooner, due⟩ := goes.follows.due_of_mem taken
  exact due.isEncode_eq_false (Nat.lt_of_lt_of_le (goes.below.right entry taken) more)

end Converter
end InkToScreen
