namespace InkToScreen.CommandLine

inductive Flag where
  | help
  | verbose
deriving DecidableEq, Repr

inductive Setting where
  | backstop
  | srgb
  | quality
  | extension
  | intent
deriving DecidableEq, Repr

inductive Opt where
  | flag (chosen : Flag)
  | setting (chosen : Setting)
deriving DecidableEq, Repr

def Flag.letter : Flag → Char
  | help => 'h'
  | verbose => 'v'

def Flag.ofLetter? (letter : Char) : Option Flag :=
  if letter = 'h' then some .help else if letter = 'v' then some .verbose else none

def Flag.long : Flag → String
  | help => "--help"
  | verbose => "--verbose"

def Flag.title (flag : Flag) : String :=
  String.ofList ['-', flag.letter] ++ "/" ++ flag.long

def Setting.long : Setting → String
  | backstop => "--backstop-profile"
  | srgb => "--srgb-profile"
  | quality => "--quality"
  | extension => "--extension"
  | intent => "--intent"

def Opt.title : Opt → String
  | .flag chosen => chosen.title
  | .setting chosen => chosen.long

/-- The long spellings, in the order of the help text. -/
def longSpellings : List (String × Opt) := [
  (Flag.help.long, .flag .help),
  (Setting.backstop.long, .setting .backstop),
  (Setting.srgb.long, .setting .srgb),
  (Setting.quality.long, .setting .quality),
  (Setting.extension.long, .setting .extension),
  (Setting.intent.long, .setting .intent),
  (Flag.verbose.long, .flag .verbose)
]

def operandNames : List String := ["INPUT_IMAGE", "OUTPUT_IMAGE_NAME_BEFORE_EXTENSION"]

end InkToScreen.CommandLine
