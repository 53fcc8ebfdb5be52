import SiteTech.Text.FoldData
import SiteTech.Text.Ranges
import SiteTech.Text.Basic

namespace SiteTech.Regex

/-- A set of code points: its ranges, both ends included, apart from each other and in increasing
order. -/
structure CharSet where
  ranges : List (Nat × Nat)
deriving Repr, Inhabited, DecidableEq

namespace CharSet

/-- The largest code point. -/
def lastPoint : Nat := 0x10ffff

/-- Joins ranges that overlap or touch. The ranges come in the order of their first points. -/
def joinRanges : List (Nat × Nat) → List (Nat × Nat)
  | [] => []
  | [r] => [r]
  | (a, b) :: (c, d) :: rest =>
    if c ≤ b + 1 then joinRanges ((a, max b d) :: rest) else (a, b) :: joinRanges ((c, d) :: rest)
termination_by l => l.length

/-- The set of all points of some ranges. -/
def ofRanges (l : List (Nat × Nat)) : CharSet :=
  ⟨joinRanges (l.mergeSort fun r s => decide (r.1 ≤ s.1))⟩

/-- The set without members. -/
def none : CharSet := ⟨[]⟩

/-- The set of one point. -/
def single (n : Nat) : CharSet := ⟨[(n, n)]⟩

/-- The set of the points from one to another. -/
def range (a b : Nat) : CharSet := ⟨[(a, b)]⟩

/-- The points of either set. -/
def union (s t : CharSet) : CharSet :=
  if s.ranges.isEmpty then t else if t.ranges.isEmpty then s else ofRanges (s.ranges ++ t.ranges)

/-- The gaps before, between and after ranges, from a point on. -/
def gaps (start : Nat) : List (Nat × Nat) → List (Nat × Nat)
  | [] => if start ≤ lastPoint then [(start, lastPoint)] else []
  | (a, b) :: rest => if start < a then (start, a - 1) :: gaps (b + 1) rest else gaps (b + 1) rest

/-- The points outside a set. -/
def compl (s : CharSet) : CharSet := ⟨gaps 0 s.ranges⟩

/-- The points of both sets. -/
def inter (s t : CharSet) : CharSet := (s.compl.union t.compl).compl

/-- The points of the first set outside the second. -/
def diff (s t : CharSet) : CharSet := s.inter t.compl

/-- The points of exactly one of the sets. -/
def symmDiff (s t : CharSet) : CharSet := (s.union t).diff (s.inter t)

/-- Whether all points are ASCII. -/
def isAscii (s : CharSet) : Bool := s.ranges.all fun r => decide (r.2 < 128)

/-- The set for look-ups. -/
def lookup (s : CharSet) : Text.Ranges := ⟨s.ranges.toArray⟩

/-- The part of some ranges between two points, moved up or down. -/
def shifted (first last : Nat) (shift : Int) (l : List (Nat × Nat)) : List (Nat × Nat) :=
  l.filterMap fun (a, b) =>
    let a := max a first
    let b := min b last
    if a ≤ b then some ((a + shift).toNat, (b + shift).toNat) else Option.none

/-- The set with both cases of its ASCII letters. -/
def foldAscii (s : CharSet) : CharSet :=
  s.union (ofRanges (shifted 0x41 0x5a 32 s.ranges ++ shifted 0x61 0x7a (-32) s.ranges))

/-- The points of all groups of case partners that meet a set. -/
def foldedPoints (s : CharSet) : List (Nat × Nat) :=
  let look := s.lookup
  Text.foldGroups.foldl
    (fun acc g => if g.any look.contains then g.map (fun n => (n, n)) ++ acc else acc) []

/-- The two letters of ASCII that have a case partner outside ASCII. -/
def foldOutside (s : CharSet) : CharSet :=
  let look := s.lookup
  let k := if look.contains 0x4b || look.contains 0x6b then [(0x212a, 0x212a)] else []
  let l := if look.contains 0x53 || look.contains 0x73 then [(0x17f, 0x17f)] else []
  ofRanges (l ++ k)

/-- The set with all case partners of its members. -/
def fold (s : CharSet) : CharSet :=
  if s.isAscii then s.foldAscii.union s.foldOutside
  else (s.foldAscii).union (ofRanges s.foldedPoints)

end CharSet

end SiteTech.Regex
