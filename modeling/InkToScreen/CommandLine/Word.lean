import InkToScreen.CommandLine.UsageError
import InkToScreen.Text.Digit

namespace InkToScreen.CommandLine

/-- A word and what it stands for. -/
inductive Word where
  | plain (text : String)
  /-- The first `--`. -/
  | divider
  | letter (flag : Flag) (attached : Option String)
  | long (opt : Opt) (attached : Option String)
  | unknown (text : String)
deriving DecidableEq, Repr

/-- A text before its first equals sign and, if there is one, the text after it. -/
def splitEquals : List Char → List Char × Option (List Char)
  | [] => ([], none)
  | c :: rest =>
    if c = '=' then ([], some rest)
    else ((c :: (splitEquals rest).1), (splitEquals rest).2)

def isDigits (text : List Char) : Bool :=
  !text.isEmpty && text.all Text.isDigit

def dropFinalNewline (text : List Char) : List Char :=
  if text.getLast? = some '\n' then text.dropLast else text

/-- The text after a dash reads as a number: digits, or a point with digits after it. -/
def isMagnitude (text : List Char) : Bool :=
  let number := dropFinalNewline text
  isDigits number ||
    match number.dropWhile Text.isDigit with
    | '.' :: fraction => isDigits fraction
    | _ => false

def longMatches (beginning : List Char) : List (String × Opt) :=
  longSpellings.filter fun spelling => beginning.isPrefixOf spelling.1.toList

def unmatched (word : String) (afterDash : List Char) : Word :=
  if isMagnitude afterDash || word.toList.contains ' ' then .plain word else .unknown word

/-- A word with two dashes: an exact spelling, or the beginning of exactly one. -/
def longWord (word : String) (afterDash : List Char) : Except UsageError Word :=
  let (name, attached) := splitEquals word.toList
  let value := attached.map String.ofList
  match longSpellings.lookup (String.ofList name) with
  | some opt => .ok (.long opt value)
  | none => match longMatches name with
    | [] => .ok (unmatched word afterDash)
    | [spelling] => .ok (.long spelling.2 value)
    | several => .error (.ambiguous word (several.map Prod.fst))

/-- The text attached to a letter: what follows it, less an equals sign right after the letter. -/
def attachedText : List Char → Option String
  | [] => none
  | '=' :: rest => some (String.ofList rest)
  | rest => some (String.ofList rest)

def Word.classify (word : String) : Except UsageError Word :=
  match word.toList with
  | '-' :: '-' :: rest => longWord word ('-' :: rest)
  | '-' :: mark :: rest => match Flag.ofLetter? mark with
    | some flag => .ok (.letter flag (attachedText rest))
    | none => .ok (unmatched word (mark :: rest))
  | _ => .ok (.plain word)

/-- The kinds of all words, or the first shortened option that is not clear. -/
def classify : List String → Except UsageError (List Word)
  | [] => .ok []
  | word :: rest =>
    if word = "--" then .ok (.divider :: rest.map .plain)
    else do
      let kind ← Word.classify word
      let kinds ← classify rest
      return kind :: kinds

end InkToScreen.CommandLine
