import InkToScreen.Text.Blank
import InkToScreen.Text.Digit

namespace InkToScreen.Text

/-- The largest count of digits that is read as a number. -/
def maxDigits : Nat := 4300

/-- Digit values of a run of digits in which single underscores may stand between two digits. -/
def digitRun? : List Char → Option (List Nat)
  | [] => none
  | [c] => (digitValue? c).map ([·])
  | c :: '_' :: rest => do
    let value ← digitValue? c
    let values ← digitRun? rest
    return value :: values
  | c :: next :: rest => do
    let value ← digitValue? c
    let values ← digitRun? (next :: rest)
    return value :: values

def ofDigits (values : List Nat) : Nat :=
  values.foldl (fun number value => 10 * number + value) 0

/-- A run of digits as a number, unless it is too long. -/
def natural? (text : List Char) : Option Nat := do
  let values ← digitRun? text
  if values.length ≤ maxDigits then some (ofDigits values) else none

def signed? : List Char → Option Int
  | '-' :: digits => (natural? digits).map fun magnitude => -(magnitude : Int)
  | '+' :: digits => (natural? digits).map fun magnitude => (magnitude : Int)
  | digits => (natural? digits).map fun magnitude => (magnitude : Int)

def integer? (text : String) : Option Int :=
  signed? (trimBlanks text.toList)

end InkToScreen.Text
