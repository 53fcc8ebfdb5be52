namespace SiteTech.Certificate

/-- A reader of bytes, which may fail. -/
abbrev Reader := StateT (List UInt8) Option

/-- Fails unless a condition holds. -/
def require (b : Bool) : Reader Unit := if b then pure () else failure

/-- Reads a byte. -/
def readByte : Reader UInt8 := fun s =>
  match s with
  | b :: rest => some (b, rest)
  | [] => none

/-- Reads a number of bytes. -/
def readBytes (n : Nat) : Reader (List UInt8) := fun s =>
  let taken := s.take n
  if taken.length = n then some (taken, s.drop n) else none

/-- Whether nothing is left to read. -/
def atEnd : Reader Bool := fun s => some (s.isEmpty, s)

/-- What a reader makes of some content. It need not read all of it. -/
def Reader.within {α : Type} (r : Reader α) (content : List UInt8) : Option α :=
  (r.run content).map (·.1)

/-- What a reader makes of some content, all of which it has to read. -/
def Reader.allOf {α : Type} (r : Reader α) (content : List UInt8) : Option α :=
  match r.run content with
  | some (a, []) => some a
  | _ => none

/-- Reads as often as it succeeds, at most `fuel` times. -/
def readMany {α : Type} (r : Reader α) : Nat → Reader (List α)
  | 0 => pure []
  | fuel + 1 => fun s =>
    match r.run s with
    | none => some ([], s)
    | some (a, rest) => ((readMany r fuel).run rest).map fun (l, rest) => (a :: l, rest)

/-- Reads as often as it succeeds. Each reading takes a byte at least. -/
def Reader.many {α : Type} (r : Reader α) : Reader (List α) := fun s => (readMany r s.length).run s

/-- The number that bytes write, the greatest digit first. -/
def bigEndian (bytes : List UInt8) : Nat := bytes.foldl (fun n b => n * 256 + b.toNat) 0

/-- The front of an element: which of the four classes its tag is of, whether it is made of other
elements, its tag, and the length of its content. -/
structure Header where
  tagClass : Nat
  constructed : Bool
  tag : Nat
  length : Nat
deriving DecidableEq, Repr

/-- The class of the tags that have a meaning only in their place. -/
def contextClass : Nat := 2

/-- Reads the rest of a tag of several bytes, seven bits from each. Five bytes are the most. -/
def readLongTag : Nat → Nat → Reader Nat
  | 0, _ => failure
  | more + 1, tag => do
    let b ← readByte
    let tag := (tag * 128 + b.toNat % 128) % UInt32.size
    if b.toNat < 128 then return tag else readLongTag more tag

/-- Reads a length. -/
def readLength : Reader Nat := do
  let first ← readByte
  if first.toNat < 128 then return first.toNat
  else
    let size := first.toNat - 128
    require (0 < size && size < 127)
    let length := bigEndian (← readBytes size)
    require (length < UInt64.size)
    return length

/-- Reads the front of an element. -/
def Header.read : Reader Header := do
  let first ← readByte
  let low := first.toNat % 32
  let tag ← if low = 31 then readLongTag 5 0 else pure low
  let length ← readLength
  return ⟨first.toNat / 64, first.toNat / 32 % 2 = 1, tag, length⟩

/-- An element of any kind. -/
structure Element where
  header : Header
  content : List UInt8
deriving DecidableEq, Repr

/-- Reads an element. -/
def Element.read : Reader Element := do
  let header ← Header.read
  return ⟨header, ← readBytes header.length⟩

namespace Tag

/-- A truth value. -/
def boolean : Nat := 1
/-- A whole number. -/
def integer : Nat := 2
/-- Bits. -/
def bitString : Nat := 3
/-- Bytes. -/
def octetString : Nat := 4
/-- The name of a kind of things. -/
def objectId : Nat := 6
/-- A text in UTF-8. -/
def utf8String : Nat := 12
/-- Elements in an order. -/
def sequence : Nat := 16
/-- Elements in no order. -/
def set : Nat := 17
/-- A text of digits and spaces. -/
def numericString : Nat := 18
/-- A text of letters, digits and a few marks. -/
def printableString : Nat := 19
/-- A text in ASCII. -/
def ia5String : Nat := 22
/-- A point in time with two digits of the year. -/
def utcTime : Nat := 23
/-- A point in time with four digits of the year. -/
def generalTime : Nat := 24

end Tag

/-- Reads an element with a tag. -/
def readTagged (tag : Nat) : Reader Element := do
  let e ← Element.read
  require (e.header.tag = tag)
  return e

/-- Reads an element with a tag that is not made of others, and gives its content. -/
def readPrimitive (tag : Nat) : Reader (List UInt8) := do
  let e ← readTagged tag
  require !e.header.constructed
  return e.content

/-- Reads an element with a tag, and in it what its content is made of. What follows in the content
does not count. -/
def readInside {α : Type} (tag : Nat) (r : Reader α) : Reader α := do
  let e ← readTagged tag
  StateT.lift (r.within e.content)

/-- Reads an object identifier. -/
def readObjectId : Reader (List UInt8) := readPrimitive Tag.objectId

/-- Whether the content of an integer is as short as it can be. -/
def isShortInteger : List UInt8 → Bool
  | [] => false
  | [_] => true
  | a :: b :: _ => !(a = 0 && b < 128) && !(a = 255 && 128 ≤ b)

/-- Reads an unsigned number of 32 bits. -/
def readWord : Reader Nat := do
  let content ← readPrimitive Tag.integer
  require (isShortInteger content)
  require (content.head?.all (· < 128))
  let n := bigEndian content
  require (n < UInt32.size)
  return n

/-- Whether a content is that of a bit string: the number of unused bits, which are all zero, and
then the bits. -/
def isBitString : List UInt8 → Bool
  | [] => false
  | [unused] => unused = 0
  | unused :: bits => unused ≤ 8 && bits.getLast?.all fun b => b.toNat % (1 <<< unused.toNat) = 0

/-- Reads a bit string. -/
def readBitString : Reader Unit := do
  require (isBitString (← readPrimitive Tag.bitString))

end SiteTech.Certificate
