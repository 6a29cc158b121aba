import InkToScreen.Color.Intent
import InkToScreen.CommandLine.Option
import InkToScreen.Text.Quoted

namespace InkToScreen.CommandLine

/-- Why a command line cannot be read. -/
inductive UsageError where
  | ambiguous (word : String) (spellings : List String)
  | ignoredValue (flag : Flag) (value : String)
  | missingValue (setting : Setting)
  | notAnInteger (value : String)
  | notAnIntent (value : String)
  | missingOperands (names : List String)
  | unrecognized (words : List String)
deriving DecidableEq, Repr

namespace UsageError

def message : UsageError → String
  | ambiguous word spellings =>
    "ambiguous option: " ++ word ++ " could match " ++ ", ".intercalate spellings
  | ignoredValue flag value =>
    "argument " ++ flag.title ++ ": ignored explicit argument " ++ Text.quoted value
  | missingValue setting => "argument " ++ setting.long ++ ": expected one argument"
  | notAnInteger value =>
    "argument " ++ Setting.quality.long ++ ": invalid int value: " ++ Text.quoted value
  | notAnIntent value =>
    "argument " ++ Setting.intent.long ++ ": invalid choice: " ++ Text.quoted value ++
      " (choose from " ++
      ", ".intercalate (Intent.all.map fun intent => Text.quoted intent.name) ++ ")"
  | missingOperands names => "the following arguments are required: " ++ ", ".intercalate names
  | unrecognized words => "unrecognized arguments: " ++ " ".intercalate words

end UsageError
end InkToScreen.CommandLine
