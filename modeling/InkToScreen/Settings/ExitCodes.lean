import InkToScreen.Status

namespace InkToScreen

/-- Codes as given, possibly incomplete. -/
abbrev CodeTable := List (Status × Int)

def CodeTable.code? (table : CodeTable) (status : Status) : Option Int :=
  (table.find? fun entry => entry.1 = status).map Prod.snd

/-- The outcomes that a table leaves out, in their own order. -/
def CodeTable.missing (table : CodeTable) : List Status :=
  Status.all.filter fun status => (table.code? status).isNone

structure ExitCodes where
  probablyNotCmyk : Int
  fatalError : Int
  cmykWithUnusableIcc : Int
  cmykNoIcc : Int
  cmykWithUsableIcc : Int
deriving DecidableEq, Repr

namespace ExitCodes

def get (codes : ExitCodes) : Status → Int
  | .probablyNotCmyk => codes.probablyNotCmyk
  | .fatalError => codes.fatalError
  | .cmykWithUnusableIcc => codes.cmykWithUnusableIcc
  | .cmykNoIcc => codes.cmykNoIcc
  | .cmykWithUsableIcc => codes.cmykWithUsableIcc

def ofFunction (code : Status → Int) : ExitCodes where
  probablyNotCmyk := code .probablyNotCmyk
  fatalError := code .fatalError
  cmykWithUnusableIcc := code .cmykWithUnusableIcc
  cmykNoIcc := code .cmykNoIcc
  cmykWithUsableIcc := code .cmykWithUsableIcc

def table (codes : ExitCodes) : CodeTable :=
  Status.all.map fun status => (status, codes.get status)

/-- The codes of a table, with default codes for what it leaves out. -/
def ofTable (table : CodeTable) : ExitCodes :=
  ofFunction fun status => (table.code? status).getD status.defaultCode

theorem get_ofFunction (code : Status → Int) (status : Status) :
    (ofFunction code).get status = code status := by
  cases status <;> rfl

theorem get_ofTable {table : CodeTable} {status : Status} {code : Int}
    (found : table.code? status = some code) : (ofTable table).get status = code := by
  simp [ofTable, get_ofFunction, found]

theorem ofTable_table (codes : ExitCodes) : ofTable codes.table = codes := rfl

theorem missing_table (codes : ExitCodes) : codes.table.missing = [] := rfl

end ExitCodes
end InkToScreen
