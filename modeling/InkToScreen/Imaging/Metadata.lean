namespace InkToScreen.Metadata

abbrev Block := List UInt8

def mark : List UInt8 := [0x45, 0x78, 0x69, 0x66, 0x00, 0x00]

/-- A picture file keeps a block only with its mark. -/
def isMarked (block : Block) : Bool :=
  mark.isPrefixOf block

def maxBytes : Nat := 65533

def unmarked (block : Block) : List UInt8 :=
  if isMarked block then block.drop mark.length else block

/-- What stands behind the mark, which may be there twice. -/
def body (block : Block) : List UInt8 :=
  unmarked (unmarked block)

inductive ByteOrder where
  | big
  | little
deriving DecidableEq, Repr

namespace ByteOrder

def ofStart? : List UInt8 → Option ByteOrder
  | [0x4D, 0x4D, 0x00, 0x2A] | [0x4D, 0x4D, 0x2A, 0x00] | [0x4D, 0x4D, 0x00, 0x2B] => some big
  | [0x49, 0x49, 0x2A, 0x00] | [0x49, 0x49, 0x00, 0x2A] => some little
  | _ => none

def number (order : ByteOrder) (bytes : List UInt8) : Nat :=
  let falling := match order with
    | big => bytes
    | little => bytes.reverse
  falling.foldl (fun total byte => 256 * total + byte.toNat) 0

def bytes (order : ByteOrder) (count number : Nat) : List UInt8 :=
  let rising := (List.range count).map fun place => UInt8.ofNat (number >>> (8 * place))
  match order with
  | big => rising.reverse
  | little => rising

end ByteOrder

/-- So many bytes from a place on, if they are all there. -/
def slice? (bytes : List UInt8) (start count : Nat) : Option (List UInt8) :=
  let found := (bytes.drop start).take count
  if found.length = count then some found else none

inductive Reading where
  | text
  | integer (isSigned : Bool)
  | real (exponentBits fractionBits : Nat)
  | ratio
  | bytes
deriving DecidableEq, Repr

/-- The count of bytes of one value of a type, and what it is taken for. -/
def reading? : Nat → Option (Nat × Reading)
  | 2 => some (1, .text)
  | 3 => some (2, .integer false)
  | 4 | 13 => some (4, .integer false)
  | 16 => some (8, .integer false)
  | 6 => some (1, .integer true)
  | 8 => some (2, .integer true)
  | 9 => some (4, .integer true)
  | 1 | 7 => some (1, .bytes)
  | 11 => some (4, .real 8 23)
  | 12 => some (8, .real 11 52)
  | 5 | 10 => some (8, .ratio)
  | _ => none

structure Field where
  tag : Nat
  unit : Nat
  reading : Reading
  data : List UInt8
deriving DecidableEq, Repr

/-- The most bytes of data that a field has room for itself. -/
def room : Nat := 4

/-- How far a directory has been read: the fields that count, and how many bytes of data the entries
by then wanted to have elsewhere. -/
structure Progress where
  held : List Field := []
  elsewhere : Nat := 0
deriving DecidableEq, Repr

def Progress.hold (progress : Progress) (field : Field) : Progress :=
  { progress with held := progress.held ++ [field] }

/-- The progress after one more entry, unless its data are cut off; of two fields with one tag the
first one counts. Data that do not fit into an entry stand elsewhere. -/
def Progress.next? (order : ByteOrder) (bytes entry : List UInt8) (progress : Progress) :
    Option Progress :=
  let tag := order.number (entry.take 2)
  let value := entry.drop 8
  match reading? (order.number ((entry.drop 2).take 2)) with
  | none => some progress
  | some (unit, reading) =>
    let size := unit * order.number ((entry.drop 4).take 4)
    let wanted := { progress with elsewhere := progress.elsewhere + size }
    if size = 0 ∨ progress.held.any (fun field => field.tag = tag) then some progress
    else if size ≤ room then some (progress.hold ⟨tag, unit, reading, value.take size⟩)
    else if bytes.length < wanted.elsewhere then some wanted
    else (slice? bytes (order.number value) size).map fun data =>
      wanted.hold ⟨tag, unit, reading, data⟩

/-- The progress after so many entries from a place on; an entry that is cut off ends the reading.
-/
def Progress.read (order : ByteOrder) (bytes : List UInt8) :
    (count start : Nat) → Progress → Progress
  | 0, _, progress => progress
  | count + 1, start, progress =>
    match (slice? bytes start 12).bind fun entry => progress.next? order bytes entry with
    | none => progress
    | some further => Progress.read order bytes count (start + 12) further

def fields? (block : Block) : Option (ByteOrder × List Field) := do
  let bytes := body block
  let order ← ByteOrder.ofStart? (bytes.take 4)
  let place ← slice? bytes 4 4
  let start := order.number place
  let count ← slice? bytes start 2
  return (order, (Progress.read order bytes (order.number count) (start + 2) {}).held)

/-- What a field says; a real number is a whole one times a power of two, with a sign. -/
inductive Value where
  | text (words : String)
  | integer (number : Int)
  | real (isNegative : Bool) (whole : Nat) (power : Int)
deriving DecidableEq, Repr

/-- The bytes of a text; one final zero is not among them. -/
def textBytes (data : List UInt8) : List UInt8 :=
  if data.getLast? = some 0 then data.dropLast else data

def textOf (data : List UInt8) : String :=
  String.ofList ((textBytes data).map fun byte => Char.ofNat byte.toNat)

/-- The number of so many bytes, whose first bit may be a sign. -/
def integerOf (isSigned : Bool) (unit number : Nat) : Int :=
  let bound := 1 <<< (8 * unit)
  if isSigned && 2 * number ≥ bound then (number : Int) - bound else number

/-- The real number of some bits, which are a sign, an exponent and a fraction; one that is not
finite says nothing. -/
def realOf? (exponentBits fractionBits bits : Nat) : Option Value :=
  let fraction := bits % (1 <<< fractionBits)
  let exponent := (bits >>> fractionBits) % (1 <<< exponentBits)
  let isNegative := bits >>> (fractionBits + exponentBits) ≠ 0
  let bias : Nat := 1 <<< (exponentBits - 1)
  let lowest : Int := 2 - bias - fractionBits
  if exponent = (1 <<< exponentBits) - 1 then none
  else if exponent = 0 then some (.real isNegative fraction lowest)
  else some (.real isNegative ((1 <<< fractionBits) + fraction) (lowest + (exponent - 1)))

/-- What a field says; of several numbers the first one. -/
def Field.value? (order : ByteOrder) (field : Field) : Option Value :=
  let first := order.number (field.data.take field.unit)
  match field.reading with
  | .text => some (.text (textOf field.data))
  | .integer isSigned => some (.integer (integerOf isSigned field.unit first))
  | .real exponentBits fractionBits => realOf? exponentBits fractionBits first
  | .ratio | .bytes => none

def descriptionTag : Nat := 0x010E

def resolutionTag : Nat := 0x011A

def resolutionUnitTag : Nat := 0x0128

def textType : Nat := 2

def description? (block : Block) : Option Value := do
  let (order, held) ← fields? block
  let field ← held.find? fun field => field.tag = descriptionTag
  field.value? order

/-- A field in characters or bytes stands for the quotient of the first two, but one of the two is
missing. A first character that is no digit makes no quotient, so nothing is missing then. -/
def Field.isHalfQuotient (field : Field) : Bool :=
  match field.reading with
  | .text => match textBytes field.data with
    | [] => true
    | [byte] => 0x30 ≤ byte && byte ≤ 0x39
    | _ => false
  | .bytes => field.data.length = 1
  | _ => false

/-- A block gives a resolution and its unit, but the resolution is half a quotient; no picture opens
with such a block. -/
def spoilsPicture (block : Block) : Bool :=
  match fields? block with
  | none => false
  | some (_, held) =>
    held.any (fun field => field.tag = resolutionUnitTag) &&
      held.any fun field => field.tag = resolutionTag && field.isHalfQuotient

/-- A description as a block keeps it: in plain characters, with a question mark for every other
one, and a zero at the end. -/
def plainText (text : String) : List UInt8 :=
  text.toList.map (fun c => if c.toNat < 128 then UInt8.ofNat c.toNat else 0x3F) ++ [0x00]

def ofDescription (text : String) : Block :=
  let order := ByteOrder.little
  let data := plainText text
  let start := 8
  let fields := order.bytes 2 descriptionTag ++ order.bytes 2 textType ++ order.bytes 4 data.length
  let value :=
    if data.length ≤ 4 then data ++ List.replicate (4 - data.length) 0x00
    else order.bytes 4 (start + 18)
  let rest := if data.length ≤ 4 then [] else data ++ List.replicate (data.length % 2) 0x00
  mark ++ [0x49, 0x49, 0x2A, 0x00] ++ order.bytes 4 start ++ order.bytes 2 1 ++ fields ++ value ++
    order.bytes 4 0 ++ rest

theorem isMarked_ofDescription (text : String) : isMarked (ofDescription text) = true := by
  simp [isMarked, ofDescription, mark]

/-- What stands behind a mark that is not repeated is the body. -/
theorem body_mark_append (rest : List UInt8) (plain : isMarked rest = false) :
    body (mark ++ rest) = rest := by
  have marked : isMarked (mark ++ rest) = true := by simp [isMarked]
  simp [body, unmarked, marked, plain]

end InkToScreen.Metadata
