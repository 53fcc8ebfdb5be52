import SiteTech.Regex.Syntax

namespace SiteTech.Regex

namespace CharSet

/-- Parts a range of numbers into products of ranges of digits, the first digit in base `64` being the
only one without a bound; `k` is the number of the other digits. -/
def digitRanges : Nat → Nat → Nat → List (List (Nat × Nat))
  | 0, first, last => [[(first, last)]]
  | k + 1, first, last =>
    let size := 1 <<< (6 * (k + 1))
    let a := first / size
    let b := last / size
    if a = b then (digitRanges k (first % size) (last % size)).map ((a, a) :: ·)
    else
      let fromStart := first % size = 0
      let toEnd := last % size = size - 1
      let front :=
        if fromStart then [] else (digitRanges k (first % size) (size - 1)).map ((a, a) :: ·)
      let back := if toEnd then [] else (digitRanges k 0 (last % size)).map ((b, b) :: ·)
      let low := if fromStart then a else a + 1
      let high := if toEnd then b else b - 1
      let middle := if low ≤ high then [(low, high) :: List.replicate (k + 1) (0, 63)] else []
      front ++ middle ++ back

/-- The code points that take the same number of bytes, with the number of bytes after the first. -/
def byteLengths : List (Nat × Nat × Nat) :=
  [(0, 0x7f, 0), (0x80, 0x7ff, 1), (0x800, 0xd7ff, 2), (0xe000, 0xffff, 2), (0x10000, 0x10ffff, 3)]

/-- The ranges of bytes that make up a range of code points. The number of bytes stands in front. -/
def byteRanges (r : Nat × Nat) : List (List (Nat × Nat)) :=
  byteLengths.flatMap fun (low, high, more) =>
    let first := max low r.1
    let last := min high r.2
    if first ≤ last then (digitRanges more first last).map ((more, more) :: ·) else []

/-- The number of places that two lists have in common at their fronts. -/
def commonFront : List (Nat × Nat) → List (Nat × Nat) → Nat
  | a :: l, b :: m => if a = b then commonFront l m + 1 else 0
  | _, _ => 0

/-- Adds the places in which lists differ from the one before them. -/
def freshPlaces (before : List (Nat × Nat)) : List (List (Nat × Nat)) → Nat
  | [] => 0
  | l :: rest => (l.length - max 1 (commonFront before l)) + freshPlaces l rest

/-- The number of bytes of a code point. -/
def byteLength (n : Nat) : Nat :=
  if n < 0x80 then 1 else if n < 0x800 then 2 else if n < 0x10000 then 3 else 4

/-- The size of a set: a character is its bytes, a set of ASCII characters one step, and any other set
the tree of its ranges of bytes. -/
def size (s : CharSet) : Nat :=
  match s.ranges with
  | [] => 32
  | [(a, b)] => if a = b then 32 * byteLength a else sizeOfRanges s
  | _ => sizeOfRanges s
where
  /-- The size of a set of several characters. -/
  sizeOfRanges (s : CharSet) : Nat :=
    if s.isAscii then 64 + 8 * s.ranges.length
    else
      let rows := s.ranges.flatMap byteRanges
      64 + 4 * rows.length + 32 * freshPlaces [] rows

end CharSet

namespace Node

/-- The size of a repetition of something of a given size. -/
def repeatedSize (min : Nat) (max : Option Nat) (size : Nat) : Nat :=
  match min, max with
  | 0, none => size + 40
  | min, none => min * size + 40
  | 0, some 1 => size + 72
  | min, some max => (if min = 0 then 32 else min * size) + 32 + (max - min) * (size + 40)

mutual

/-- The size of a pattern, as an automaton on the bytes of UTF-8 that is run from the end of a text. -/
def size : Node → Nat
  | .empty => 32
  | .set s _ => s.size
  | .look _ => 32
  | .group none n => n.size
  | .group (some _) n => n.size + 64
  | .concat items => sizeSum items
  | .alternate branches => sizeSum branches + 4 * branches.length + 64
  | .repeated min max _ n => repeatedSize min max n.size

/-- The sum of the sizes. -/
def sizeSum : List Node → Nat
  | [] => 0
  | n :: rest => n.size + sizeSum rest

end

end Node

end SiteTech.Regex
