import SiteTech.Http.Inflate

namespace SiteTech.Http.Gzip

/-- One bit of the checksum. -/
def checkBit (sum : Nat) : Nat :=
  if sum % 2 = 1 then (sum / 2).xor 0xedb88320 else sum / 2

/-- The checksum with one byte more. -/
def checkByte (sum : Nat) (b : UInt8) : Nat :=
  (List.range 8).foldl (fun sum _ => checkBit sum) (sum.xor b.toNat)

/-- The checksum of bytes. -/
def checksum (bytes : List UInt8) : Nat := (bytes.foldl checkByte 0xffffffff).xor 0xffffffff

/-- The number that bytes write, the lowest digit first. -/
def littleEndian : List UInt8 → Nat
  | [] => 0
  | b :: rest => b.toNat + 256 * littleEndian rest

/-- What follows a text that ends with a zero. -/
def afterZero : List UInt8 → Option (List UInt8)
  | [] => none
  | b :: rest => if b = 0 then some rest else afterZero rest

/-- What follows a field with its size in front. -/
def afterField : List UInt8 → Option (List UInt8)
  | a :: b :: rest =>
    let size := littleEndian [a, b]
    if size ≤ rest.length then some (rest.drop size) else none
  | _ => none

/-- What follows the checksum of the front. -/
def afterSum (bytes : List UInt8) : Option (List UInt8) :=
  if 2 ≤ bytes.length then some (bytes.drop 2) else none

/-- What follows the front of a member. Its flags tell which parts it has. -/
def afterFront : List UInt8 → Option (List UInt8)
  | 0x1f :: 0x8b :: 8 :: flags :: _ :: _ :: _ :: _ :: _ :: _ :: rest => do
    let part (bit : Nat) (after : List UInt8 → Option (List UInt8)) (s : List UInt8) :=
      if flags.toNat.testBit bit then after s else some s
    let rest ← part 2 afterField rest
    let rest ← part 3 afterZero rest
    let rest ← part 4 afterZero rest
    part 1 afterSum rest
  | _ => none

/-- Unpacks members one after the other, at most `fuel` of them. -/
def unpackMembers : Nat → List UInt8 → Option (List UInt8)
  | _, [] => some []
  | 0, _ => none
  | fuel + 1, bytes => do
    let (content, rest) ← inflate? (← afterFront bytes)
    if 8 ≤ rest.length ∧ littleEndian (rest.take 4) = checksum content ∧
        littleEndian ((rest.drop 4).take 4) = content.length % UInt32.size then
      return content ++ (← unpackMembers fuel (rest.drop 8))
    else none

/-- Unpacks a body. A body without any bytes is one without members. -/
def unpack? (bytes : List UInt8) : Option (List UInt8) := unpackMembers bytes.length bytes

end SiteTech.Http.Gzip
