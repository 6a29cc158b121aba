import InkToScreen.CommandLine.Word
import InkToScreen.Path
import InkToScreen.Text.Integer

/-! Reading a command line from left to right. The divider belongs to the operand beside it, and a
lone `--` where a value should be is taken away and leaves nothing. -/
namespace InkToScreen.CommandLine

/-- A value from the command line: never given, given as a lone `--`, or given. -/
inductive Supplied (α : Type) where
  | absent
  | bare
  | value (value : α)
deriving DecidableEq, Repr

structure Options where
  backstop : Supplied Path := .absent
  srgb : Supplied Path := .absent
  quality : Supplied Int := .absent
  extension : Supplied String := .absent
  intent : Supplied Intent := .absent
  verbose : Bool := false
deriving DecidableEq, Repr

/-- A complete command line; an operand is missing its text when that was a lone `--`. -/
structure Arguments where
  options : Options
  input : Option String
  stem : Option String
deriving DecidableEq, Repr

inductive Stop where
  | help
  | usage (error : UsageError)
deriving DecidableEq, Repr

structure Reading where
  options : Options := {}
  operands : List (Option String) := []
  extras : List String := []
deriving DecidableEq, Repr

/-- What stands just before the word that is read. -/
inductive Margin where
  | nothing
  | operand
  | divider
deriving DecidableEq, Repr

def Options.give (options : Options) (setting : Setting) (text : String) :
    Except UsageError Options :=
  let bare := text = "--"
  match setting with
  | .backstop => .ok { options with backstop := if bare then .bare else .value (Path.ofText text) }
  | .srgb => .ok { options with srgb := if bare then .bare else .value (Path.ofText text) }
  | .extension => .ok { options with extension := if bare then .bare else .value text }
  | .quality =>
    if bare then .ok { options with quality := .bare }
    else match Text.integer? text with
      | some number => .ok { options with quality := .value number }
      | none => .error (.notAnInteger text)
  | .intent =>
    if bare then .ok { options with intent := .bare }
    else match Intent.ofName? text with
      | some intent => .ok { options with intent := .value intent }
      | none => .error (.notAnIntent text)

/-- The flags of one word: a flag and the letters attached to it. -/
def Flag.chain (flag : Flag) : List Char → Except UsageError (List Flag)
  | [] => .ok [flag]
  | letter :: rest => match Flag.ofLetter? letter with
    | some next => (flag :: ·) <$> chain next rest
    | none => .error (.ignoredValue flag (String.ofList (letter :: rest)))

namespace Reading

def hasRoom (reading : Reading) : Bool :=
  reading.operands.length < operandNames.length

def fill (reading : Reading) (operand : Option String) : Reading :=
  { reading with operands := reading.operands ++ [operand] }

def keep (reading : Reading) (word : String) : Reading :=
  { reading with extras := reading.extras ++ [word] }

def give (reading : Reading) (setting : Setting) (text : String) : Except Stop Reading :=
  match reading.options.give setting text with
  | .ok options => .ok { reading with options }
  | .error error => .error (.usage error)

def raise (reading : Reading) : List Flag → Except Stop Reading
  | [] => .ok reading
  | .help :: _ => .error .help
  | .verbose :: rest =>
    raise { reading with options := { reading.options with verbose := true } } rest

def raiseLetter (reading : Reading) (flag : Flag) (attached : Option String) :
    Except Stop Reading :=
  match attached with
  | none => reading.raise [flag]
  | some "" => .error (.usage (.ignoredValue flag ""))
  | some text => match flag.chain text.toList with
    | .ok flags => reading.raise flags
    | .error error => .error (.usage error)

/-- The reading once it is clear that no operand follows a divider. -/
def settle (reading : Reading) : Margin → Reading
  | .divider => reading.keep "--"
  | .operand | .nothing => reading

def run (reading : Reading) (margin : Margin) : List Word → Except Stop Reading
  | [] => .ok (reading.settle margin)
  | .plain text :: rest =>
    if reading.hasRoom then
      run (reading.fill (if text = "--" ∧ margin ≠ .divider then none else some text)) .operand rest
    else run ((reading.settle margin).keep text) .nothing rest
  | .divider :: rest =>
    if margin = .operand then run reading .nothing rest
    else run (reading.settle margin) .divider rest
  | .unknown text :: rest => run ((reading.settle margin).keep text) .nothing rest
  | .letter flag attached :: rest => do
    run (← (reading.settle margin).raiseLetter flag attached) .nothing rest
  | .long (.flag flag) none :: rest => do run (← (reading.settle margin).raise [flag]) .nothing rest
  | .long (.flag flag) (some text) :: _ => .error (.usage (.ignoredValue flag text))
  | .long (.setting setting) (some text) :: rest => do
    run (← (reading.settle margin).give setting text) .nothing rest
  | .long (.setting setting) none :: .plain text :: rest => do
    run (← (reading.settle margin).give setting text) .nothing rest
  | .long (.setting setting) none :: _ => .error (.usage (.missingValue setting))

def arguments (reading : Reading) : Except Stop Arguments :=
  match reading.operands with
  | [input, stem] =>
    if reading.extras.isEmpty then .ok { options := reading.options, input, stem }
    else .error (.usage (.unrecognized reading.extras))
  | operands => .error (.usage (.missingOperands (operandNames.drop operands.length)))

end Reading

def parse (words : List String) : Except Stop Arguments :=
  match classify words with
  | .error error => .error (.usage error)
  | .ok kinds => do (← Reading.run {} .nothing kinds).arguments

end InkToScreen.CommandLine
