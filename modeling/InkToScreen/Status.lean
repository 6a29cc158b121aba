namespace InkToScreen

/-- Exactly one outcome per conversion. -/
inductive Status where
  | probablyNotCmyk
  | fatalError
  | cmykWithUnusableIcc
  | cmykNoIcc
  | cmykWithUsableIcc
deriving DecidableEq, Repr

namespace Status

/-- All outcomes, in the order of their default exit codes. -/
def all : List Status :=
  [probablyNotCmyk, fatalError, cmykWithUnusableIcc, cmykNoIcc, cmykWithUsableIcc]

def name : Status → String
  | probablyNotCmyk => "PROBABLY_NOT_CMYK"
  | fatalError => "FATAL_ERROR"
  | cmykWithUnusableIcc => "CMYK_WITH_UNUSABLE_ICC"
  | cmykNoIcc => "CMYK_NO_ICC"
  | cmykWithUsableIcc => "CMYK_WITH_USABLE_ICC"

/-- The exit code unless the settings say otherwise. -/
def defaultCode : Status → Int
  | probablyNotCmyk => 0
  | fatalError => 1
  | cmykWithUnusableIcc => 2
  | cmykNoIcc => 3
  | cmykWithUsableIcc => 4

def ofName? (text : String) : Option Status :=
  all.find? fun status => status.name = text

theorem mem_all (status : Status) : status ∈ all := by
  cases status <;> decide

end Status

/-- The profile that described the inks of a converted picture. -/
inductive ProfileSource where
  | embedded
  | backstopNoEmbedded
  | backstopEmbeddedUnusable
deriving DecidableEq, Repr

namespace ProfileSource

def all : List ProfileSource := [embedded, backstopNoEmbedded, backstopEmbeddedUnusable]

def name : ProfileSource → String
  | embedded => "embedded"
  | backstopNoEmbedded => "backstop-no-embedded"
  | backstopEmbeddedUnusable => "backstop-embedded-unusable"

def ofName? (text : String) : Option ProfileSource :=
  all.find? fun source => source.name = text

/-- The outcome of a conversion that used this source. -/
def status : ProfileSource → Status
  | embedded => .cmykWithUsableIcc
  | backstopNoEmbedded => .cmykNoIcc
  | backstopEmbeddedUnusable => .cmykWithUnusableIcc

theorem status_injective {first second : ProfileSource} (same : first.status = second.status) :
    first = second := by
  cases first <;> cases second <;> first | rfl | cases same

end ProfileSource
end InkToScreen
