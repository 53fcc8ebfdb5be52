import SiteTech.Text.NormalData

namespace SiteTech.Text

/-- The combining class of a character; zero for all but marks. -/
def combiningClass (n : Nat) : Nat :=
  if n < 0x300 then 0
  else
    match combiningRanges.find? fun r => decide (r.1 ≤ n ∧ n ≤ r.2.1) with
    | some r => r.2.2
    | none => 0

/-- Finds the decomposition of a character among those with an index in `[lo, hi)`. -/
def findDecomposition (n lo hi : Nat) : Option Decomposition :=
  if lo < hi then
    let mid := (lo + hi) / 2
    match decompositions[mid]? with
    | none => none
    | some d =>
      if n < d.whole then findDecomposition n lo mid
      else if d.whole < n then findDecomposition n (mid + 1) hi
      else some d
  else none
termination_by hi - lo

/-- The parts of a composed syllable of the Korean script. -/
def hangulParts (n : Nat) : List Nat :=
  let s := n - 0xac00
  let t := s % 28
  [0x1100 + s / 588, 0x1161 + s % 588 / 28] ++ (if t = 0 then [] else [0x11a7 + t])

/-- Decomposes a character in at most `fuel` steps. -/
def decomposeChar : Nat → Nat → List Nat
  | 0, n => [n]
  | fuel + 1, n =>
    if n < 0xc0 then [n]
    else if 0xac00 ≤ n ∧ n ≤ 0xd7a3 then hangulParts n
    else
      match findDecomposition n 0 decompositions.size with
      | none => [n]
      | some d =>
        decomposeChar fuel d.first ++ (match d.second with
          | some m => [m]
          | none => [])

/-- Puts a mark behind those before it whose class is not greater. The marks are in reverse. -/
def insertMark (n cls : Nat) : List (Nat × Nat) → List (Nat × Nat)
  | [] => [(n, cls)]
  | (m, k) :: rest => if cls < k then (m, k) :: insertMark n cls rest else (n, cls) :: (m, k) :: rest

/-- Orders the marks after each starter. `done` and the marks are in reverse. -/
def orderMarks (done : List Nat) (marks : List (Nat × Nat)) : List Nat → List Nat
  | [] => (marks.map (·.1) ++ done).reverse
  | n :: rest =>
    let cls := combiningClass n
    if cls = 0 then orderMarks (n :: (marks.map (·.1) ++ done)) [] rest
    else orderMarks done (insertMark n cls marks) rest

/-- The character that two compose to. -/
def composePair (a b : Nat) : Option Nat :=
  if 0x1100 ≤ a ∧ a ≤ 0x1112 ∧ 0x1161 ≤ b ∧ b ≤ 0x1175 then
    some (0xac00 + ((a - 0x1100) * 21 + (b - 0x1161)) * 28)
  else if 0xac00 ≤ a ∧ a ≤ 0xd7a3 ∧ (a - 0xac00) % 28 = 0 ∧ 0x11a8 ≤ b ∧ b ≤ 0x11c2 then
    some (a + (b - 0x11a7))
  else
    (decompositions.find? fun d => d.composes && d.first == a && d.second == some b).map (·.whole)

/-- Composes characters with the last starter. `done` is what stands before the starter and
`between` what stands after it, both in reverse; `last` is the class of the character before. -/
def compose (done : List Nat) (starter : Option Nat) (between : List Nat) (last : Nat) :
    List Nat → List Nat
  | [] => (between ++ starter.toList ++ done).reverse
  | n :: rest =>
    let cls := combiningClass n
    let joined := match starter with
      | some s => if between.isEmpty || (last < cls && last != 0) then composePair s n else none
      | none => none
    match joined with
    | some m => compose done (some m) between last rest
    | none =>
      if cls = 0 then compose (between ++ starter.toList ++ done) (some n) [] 0 rest
      else compose done starter (n :: between) cls rest

/-- The composed normal form. -/
def normalize (s : List Char) : List Char :=
  if s.all fun c => c.toNat < 0x300 then s
  else
    let parts := s.flatMap fun c => decomposeChar 6 c.toNat
    (compose [] none [] 0 (orderMarks [] [] parts)).map Char.ofNat

end SiteTech.Text
