import InkToScreen.Path
import InkToScreen.Text.Quoted

namespace InkToScreen

/-- The families of faults that the stages tell apart. -/
inductive Kind where
  | missing
  | denied
  | occupied
  | notDirectory
  | isDirectory
  | system
  | unidentified
  | bomb
  | profile
  | value
  | type
  | malformed
  | endOfData
  | memory
  | overflow
  | runtime
  | interrupt
  | other (name : String)
deriving DecidableEq, Repr

namespace Kind

/-- Faults of the operating system; an unidentified picture counts among them. -/
def isSystem : Kind → Bool
  | missing | denied | occupied | notDirectory | isDirectory | system | unidentified => true
  | _ => false

/-- Faults that reading a picture's pixels may report. -/
def isDecoding (kind : Kind) : Bool :=
  kind.isSystem || kind == value || kind == malformed

/-- Faults that a broken or unfit profile may cause. -/
def isProfile (kind : Kind) : Bool :=
  kind == profile || kind.isSystem || kind == type || kind == value

/-- Faults that writing a file may report. -/
def isWriting (kind : Kind) : Bool :=
  kind.isSystem || kind == value

end Kind

inductive SystemCode where
  | missing
  | denied
  | busy
  | occupied
  | noFreeName
  | notDirectory
  | isDirectory
  | nameTooLong
deriving DecidableEq, Repr

namespace SystemCode

def number : SystemCode → Nat
  | missing => 2
  | denied => 13
  | busy => 16
  | occupied => 17
  | noFreeName => 17
  | notDirectory => 20
  | isDirectory => 21
  | nameTooLong => 36

def text : SystemCode → String
  | missing => "No such file or directory"
  | denied => "Permission denied"
  | busy => "Device or resource busy"
  | occupied => "File exists"
  | noFreeName => "No usable temporary file name found"
  | notDirectory => "Not a directory"
  | isDirectory => "Is a directory"
  | nameTooLong => "File name too long"

def kind : SystemCode → Kind
  | missing => .missing
  | denied => .denied
  | occupied | noFreeName => .occupied
  | notDirectory => .notDirectory
  | isDirectory => .isDirectory
  | busy | nameTooLong => .system

end SystemCode

/-- An answer of the file system with the paths it is about: none, one, or the two of a renaming. -/
structure SystemError where
  code : SystemCode
  paths : List String
deriving DecidableEq, Repr

def SystemError.message (error : SystemError) : String :=
  let head := "[Errno " ++ toString error.code.number ++ "] " ++ error.code.text
  match error.paths with
  | [] => head
  | paths => head ++ ": " ++ " -> ".intercalate (paths.map Text.quoted)

/-- A fault, by its cause. -/
inductive Fault where
  | reported (kind : Kind) (text : String)
  | system (error : SystemError)
  | nulInPath
  | absent (path : Path)
  | unrecognized (path : Path)
  | oversized (path : Path) (text : String)
  | unknownIntent (number : Int)
  | noPicture
  | inputWithoutText
  | qualityWithoutNumber
deriving DecidableEq, Repr

namespace Fault

def kind : Fault → Kind
  | reported kind _ => kind
  | system error => error.code.kind
  | nulInPath => .value
  | absent _ => .missing
  | unrecognized _ => .value
  | oversized _ _ => .value
  | unknownIntent _ => .value
  | noPicture => .profile
  | inputWithoutText => .type
  | qualityWithoutNumber => .type

def message : Fault → String
  | reported _ text => text
  | system error => error.message
  | nulInPath => "embedded null byte"
  | absent path => "Файл не найден: " ++ path.text
  | unrecognized path => "Файл не является изображением: " ++ path.text
  | oversized path text => "Изображение слишком велико: " ++ path.text ++ " (" ++ text ++ ")"
  | unknownIntent number => "Unknown ICC rendering intent: " ++ toString number
  | noPicture => "transform produced no image"
  | inputWithoutText => "expected str, bytes or os.PathLike object, not list"
  | qualityWithoutNumber => "'<=' not supported between instances of 'int' and 'list'"

end Fault

/-- The stage that a failed conversion gave up in. -/
inductive Reason where
  | invalidArguments
  | outputPathTooLong
  | inputUnreadable
  | decodeFailed
  | targetProfileUnusable
  | backstopProfileUnusable
  | transformFailed
  | encodeFailed
deriving DecidableEq, Repr

namespace Reason

def all : List Reason :=
  [invalidArguments, outputPathTooLong, inputUnreadable, decodeFailed, targetProfileUnusable,
    backstopProfileUnusable, transformFailed, encodeFailed]

def name : Reason → String
  | invalidArguments => "invalid-arguments"
  | outputPathTooLong => "output-path-too-long"
  | inputUnreadable => "input-unreadable"
  | decodeFailed => "decode-failed"
  | targetProfileUnusable => "target-profile-unusable"
  | backstopProfileUnusable => "backstop-profile-unusable"
  | transformFailed => "transform-failed"
  | encodeFailed => "encode-failed"

def ofName? (text : String) : Option Reason :=
  all.find? fun reason => reason.name = text

end Reason

/-- A conversion that a stage gave up, by its cause. -/
inductive ConversionError where
  | emptyName
  | longName (size : Nat) (limit : Int)
  | undecodable (input : Path) (cause : Fault)
  | targetUnusable (profile : Path) (cause : Fault)
  | backstopUnusable (profile : Path) (cause : Fault)
  | backstopFailed (profile input : Path) (cause : Fault)
  | noPlace (folder : Path) (cause : Fault)
  | notWritten (output : Path) (cause : Fault)
deriving DecidableEq, Repr

namespace ConversionError

def reason : ConversionError → Reason
  | emptyName => .invalidArguments
  | longName _ _ => .outputPathTooLong
  | undecodable _ _ => .decodeFailed
  | targetUnusable _ _ => .targetProfileUnusable
  | backstopUnusable _ _ => .backstopProfileUnusable
  | backstopFailed _ _ _ => .transformFailed
  | noPlace _ _ => .encodeFailed
  | notWritten _ _ => .encodeFailed

def message : ConversionError → String
  | emptyName => "Output name must not be empty"
  | longName size limit =>
    "Output name is " ++ toString size ++ " bytes long; at most " ++ toString limit ++
      " fit with the extension"
  | undecodable input cause => "Cannot decode " ++ input.text ++ ": " ++ cause.message
  | targetUnusable profile cause =>
    "Cannot read sRGB profile " ++ profile.text ++ ": " ++ cause.message
  | backstopUnusable profile cause =>
    "Cannot read backstop profile " ++ profile.text ++ ": " ++ cause.message
  | backstopFailed profile input cause =>
    "Backstop profile " ++ profile.text ++ " cannot convert " ++ input.text ++ ": " ++ cause.message
  | noPlace folder cause => "Cannot create output in " ++ folder.text ++ ": " ++ cause.message
  | notWritten output cause => "Cannot write JPEG " ++ output.text ++ ": " ++ cause.message

end ConversionError

/-- Why a run ended early. -/
inductive Failure where
  | fault (cause : Fault)
  | conversion (error : ConversionError)
deriving DecidableEq, Repr

def Failure.message : Failure → String
  | .fault cause => cause.message
  | .conversion error => error.message

end InkToScreen
