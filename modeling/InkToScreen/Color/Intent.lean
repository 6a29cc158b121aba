namespace InkToScreen

/-- How colours out of the screen's reach are rendered. -/
inductive Intent where
  | perceptual
  | relative
  | saturation
  | absolute
deriving DecidableEq, Repr

namespace Intent

def all : List Intent := [perceptual, relative, saturation, absolute]

def name : Intent → String
  | perceptual => "perceptual"
  | relative => "relative"
  | saturation => "saturation"
  | absolute => "absolute"

def number : Intent → Nat
  | perceptual => 0
  | relative => 1
  | saturation => 2
  | absolute => 3

def ofName? (text : String) : Option Intent :=
  all.find? fun intent => intent.name = text

def ofNumber? (number : Int) : Option Intent :=
  all.find? fun intent => (intent.number : Int) = number

theorem mem_all (intent : Intent) : intent ∈ all := by
  cases intent <;> decide

theorem ofName?_name (intent : Intent) : ofName? intent.name = some intent := by
  cases intent <;> decide

theorem ofName?_eq_some_iff {text : String} {intent : Intent} :
    ofName? text = some intent ↔ text = intent.name := by
  constructor
  · intro found
    have named := List.find?_some found
    simpa using (of_decide_eq_true named).symm
  · rintro rfl
    exact ofName?_name intent

theorem ofNumber?_number (intent : Intent) : ofNumber? intent.number = some intent := by
  cases intent <;> decide

theorem ofNumber?_eq_some_iff {number : Int} {intent : Intent} :
    ofNumber? number = some intent ↔ number = intent.number := by
  constructor
  · intro found
    have named := List.find?_some found
    simpa using (of_decide_eq_true named).symm
  · rintro rfl
    exact ofNumber?_number intent

theorem number_injective {first second : Intent}
    (same : (first.number : Int) = second.number) : first = second := by
  have found := ofNumber?_eq_some_iff.mpr same
  exact Option.some.inj ((ofNumber?_number first).symm.trans found)

end Intent
end InkToScreen
