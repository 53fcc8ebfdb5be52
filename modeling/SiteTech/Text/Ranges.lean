import SiteTech.Text.Packed

namespace SiteTech.Text

/-- A set of code points: its maximal ranges, both ends included, in increasing order. -/
structure Ranges where
  bounds : Array (Nat × Nat)

namespace Ranges

/-- Looks a code point up among the ranges with an index in `[lo, hi)`. -/
def search (bounds : Array (Nat × Nat)) (n lo hi : Nat) : Bool :=
  if lo < hi then
    let mid := (lo + hi) / 2
    match bounds[mid]? with
    | none => false
    | some (first, last) =>
      if n < first then search bounds n lo mid
      else if last < n then search bounds n (mid + 1) hi
      else true
  else false
termination_by hi - lo

/-- Whether a code point lies in one of the ranges. -/
def contains (r : Ranges) (n : Nat) : Bool := search r.bounds n 0 r.bounds.size

/-- The ranges of packed rows: each row has the distance of a range from the end of the one before
it, and the number of code points after its first if there are any. -/
def ofRows (last : Nat) : List (List Nat) → List (Nat × Nat)
  | [] => []
  | row :: rest =>
    let first := last + row.headD 0
    let stop := first + row.getD 1 0
    (first, stop) :: ofRows stop rest

/-- Reads a packed set. -/
def unpack (text : String) : Ranges := ⟨(ofRows 0 (packedRows text)).toArray⟩

/-- The ranges as a list. -/
def toList (r : Ranges) : List (Nat × Nat) := r.bounds.toList

end Ranges

end SiteTech.Text
