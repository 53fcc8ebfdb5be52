namespace SiteTech.Http

/-- A reader of bits, which may fail. -/
abbrev BitReader := StateT (List Bool) Option

/-- The bits of bytes. -/
def bitsOf (bytes : List UInt8) : List Bool :=
  bytes.flatMap fun b => (List.range 8).map b.toNat.testBit

/-- Reads a bit. -/
def readBit : BitReader Bool := fun s =>
  match s with
  | b :: rest => some (b, rest)
  | [] => none

/-- Reads a number of some bits, the lowest first. -/
def readNumber : Nat → BitReader Nat
  | 0 => pure 0
  | n + 1 => do
    let low ← readBit
    return 2 * (← readNumber n) + low.toNat

/-- The codes of symbols as a tree. -/
inductive CodeTree where
  | empty
  | leaf (symbol : Nat)
  | node (zero one : CodeTree)
deriving Repr

namespace CodeTree

/-- Adds the code of a symbol. No code may begin with another one. -/
def insert (symbol : Nat) : List Bool → CodeTree → Option CodeTree
  | [], empty => some (leaf symbol)
  | false :: code, empty => (insert symbol code empty).map fun t => node t empty
  | true :: code, empty => (insert symbol code empty).map fun t => node empty t
  | false :: code, node zero one => (insert symbol code zero).map fun t => node t one
  | true :: code, node zero one => (insert symbol code one).map fun t => node zero t
  | _, _ => none

/-- Reads a symbol. -/
def read : CodeTree → BitReader Nat
  | empty => failure
  | leaf symbol => pure symbol
  | node zero one => do if ← readBit then one.read else zero.read

/-- Adds symbols of given lengths, where `code` follows the last code, of length `last`. -/
def insertAll : List (Nat × Nat) → Nat → Nat → CodeTree → Option CodeTree
  | [], _, _, tree => some tree
  | (length, symbol) :: rest, last, code, tree =>
    let code := code <<< (length - last)
    if 1 <<< length ≤ code then none
    else
      (insert symbol ((List.range length).reverse.map code.testBit) tree).bind
        (insertAll rest length (code + 1))

/-- The greatest length of a code. -/
def maxLength : Nat := 15

/-- The symbols that have codes, with their lengths, in the order of their codes. -/
def inCodeOrder (lengths : List Nat) : List (Nat × Nat) :=
  (List.range maxLength).flatMap fun n => lengths.zipIdx.filter fun entry => entry.1 == n + 1

/-- The tree of the codes of some lengths: shorter codes come first, and codes of one length are in the
order of their symbols. A symbol of length zero has none. -/
def ofLengths (lengths : List Nat) : Option CodeTree := insertAll (inCodeOrder lengths) 0 0 empty

end CodeTree

/-- The lengths of copies: the least of each symbol, and the number of bits that are added. -/
def copyLengths : List (Nat × Nat) :=
  [(3, 0), (4, 0), (5, 0), (6, 0), (7, 0), (8, 0), (9, 0), (10, 0), (11, 1), (13, 1), (15, 1),
    (17, 1), (19, 2), (23, 2), (27, 2), (31, 2), (35, 3), (43, 3), (51, 3), (59, 3), (67, 4),
    (83, 4), (99, 4), (115, 4), (131, 5), (163, 5), (195, 5), (227, 5), (258, 0)]

/-- The distances of copies: the least of each symbol, and the number of bits that are added. -/
def copyDistances : List (Nat × Nat) :=
  [(1, 0), (2, 0), (3, 0), (4, 0), (5, 1), (7, 1), (9, 2), (13, 2), (17, 3), (25, 3), (33, 4),
    (49, 4), (65, 5), (97, 5), (129, 6), (193, 6), (257, 7), (385, 7), (513, 8), (769, 8),
    (1025, 9), (1537, 9), (2049, 10), (3073, 10), (4097, 11), (6145, 11), (8193, 12), (12289, 12),
    (16385, 13), (24577, 13)]

/-- Reads a number that a symbol begins and further bits complete. -/
def readScaled (table : List (Nat × Nat)) (symbol : Nat) : BitReader Nat :=
  match table[symbol]? with
  | some (least, bits) => do return least + (← readNumber bits)
  | none => failure

/-- Copies bytes from a distance before the end, one after the other. -/
def copyBack (distance : Nat) : Nat → Array UInt8 → Option (Array UInt8)
  | 0, out => some out
  | n + 1, out =>
    if distance ≤ out.size then
      (out[out.size - distance]?).bind fun b => copyBack distance n (out.push b)
    else none

/-- Reads the symbols of a block, at most `fuel` of them. Symbol 256 ends it. -/
def readSymbols (literals distances : CodeTree) : Nat → Array UInt8 → BitReader (Array UInt8)
  | 0, _ => failure
  | fuel + 1, out => do
    let symbol ← literals.read
    if symbol < 256 then readSymbols literals distances fuel (out.push (UInt8.ofNat symbol))
    else if symbol = 256 then return out
    else
      let length ← readScaled copyLengths (symbol - 257)
      let distance ← readScaled copyDistances (← distances.read)
      readSymbols literals distances fuel (← StateT.lift (copyBack distance length out))

/-- Reads bytes that are not packed: their number, that number inverted, and the bytes. They begin
with a new byte. -/
def readStored (out : Array UInt8) : BitReader (Array UInt8) := do
  modify fun s => s.drop (s.length % 8)
  let size ← readNumber 16
  let inverse ← readNumber 16
  if size + inverse = 65535 then
    let bytes ← (List.range size).mapM fun _ => readNumber 8
    return out ++ (bytes.map UInt8.ofNat).toArray
  else failure

/-- The lengths of the codes that need not be told. -/
def usualLengths : List Nat :=
  List.replicate 144 8 ++ List.replicate 112 9 ++ List.replicate 24 7 ++ List.replicate 8 8

/-- The order in which the lengths of the codes for lengths are told. -/
def lengthOrder : List Nat := [16, 17, 18, 0, 8, 7, 9, 6, 10, 5, 11, 4, 12, 3, 13, 2, 14, 1, 15]

/-- Reads lengths until there are `total`, at most `fuel` symbols. Some symbols repeat a length. -/
def readLengths (codes : CodeTree) (total : Nat) : Nat → List Nat → BitReader (List Nat)
  | 0, _ => failure
  | fuel + 1, read => do
    if total ≤ read.length then
      if read.length = total then return read.reverse else failure
    else
      let symbol ← codes.read
      if symbol < 16 then readLengths codes total fuel (symbol :: read)
      else
        let (length, least, bits) ←
          match symbol, read with
          | 16, last :: _ => pure (last, 3, 2)
          | 16, [] => failure
          | 17, _ => pure (0, 3, 3)
          | _, _ => pure (0, 11, 7)
        let times := least + (← readNumber bits)
        readLengths codes total fuel (List.replicate times length ++ read)

/-- Reads the codes of a block: those of bytes and lengths, and those of distances. -/
def readCodes : BitReader (CodeTree × CodeTree) := do
  let literalCount := 257 + (← readNumber 5)
  let distanceCount := 1 + (← readNumber 5)
  let told ← (List.range (4 + (← readNumber 4))).mapM fun _ => readNumber 3
  let lengths := (List.range 19).map fun symbol => ((lengthOrder.zip told).lookup symbol).getD 0
  let codes ← StateT.lift (CodeTree.ofLengths lengths)
  let total := literalCount + distanceCount
  let all ← readLengths codes total (total + 1) []
  let literals ← StateT.lift (CodeTree.ofLengths (all.take literalCount))
  let distances ← StateT.lift (CodeTree.ofLengths (all.drop literalCount))
  return (literals, distances)

/-- Reads the symbols of a block with codes. Every symbol takes a bit at least. -/
def readPacked (codes : CodeTree × CodeTree) (out : Array UInt8) : BitReader (Array UInt8) := do
  readSymbols codes.1 codes.2 ((← get).length + 1) out

/-- The codes that need not be told. -/
def usualCodes : BitReader (CodeTree × CodeTree) := do
  let literals ← StateT.lift (CodeTree.ofLengths usualLengths)
  let distances ← StateT.lift (CodeTree.ofLengths (List.replicate 30 5))
  return (literals, distances)

/-- Reads a block after its mark. -/
def readBlock (kind : Nat) (out : Array UInt8) : BitReader (Array UInt8) := do
  if kind = 0 then readStored out
  else if kind = 1 then readPacked (← usualCodes) out
  else if kind = 2 then readPacked (← readCodes) out
  else failure

/-- Reads blocks up to the last one, at most `fuel` of them. -/
def readBlocks : Nat → Array UInt8 → BitReader (Array UInt8)
  | 0, _ => failure
  | fuel + 1, out => do
    let last ← readBit
    let out ← readBlock (← readNumber 2) out
    if last then return out else readBlocks fuel out

/-- Unpacks the bytes in front, and gives what follows them from the next byte on. -/
def inflate? (bytes : List UInt8) : Option (List UInt8 × List UInt8) :=
  let bits := bitsOf bytes
  match (readBlocks (bits.length + 1) #[]).run bits with
  | some (out, rest) => some (out.toList, bytes.drop (bytes.length - rest.length / 8))
  | none => none

end SiteTech.Http
