import SiteTech.Text.Basic

namespace SiteTech.Url.Punycode

/-- The digit with a value below 36. -/
def digit (n : Nat) : Char := if n < 26 then Char.ofNat (n + 97) else Char.ofNat (n - 26 + 48)

/-- The value of a digit. -/
def digitValue? (c : Char) : Option Nat :=
  if 'a' ≤ c ∧ c ≤ 'z' then some (c.toNat - 97)
  else if 'A' ≤ c ∧ c ≤ 'Z' then some (c.toNat - 65)
  else if '0' ≤ c ∧ c ≤ '9' then some (c.toNat - 48 + 26)
  else none

/-- Divides a gap until it is small, and counts the base along. -/
def reduce : Nat → Nat → Nat → Nat × Nat
  | 0, delta, k => (delta, k)
  | fuel + 1, delta, k => if 455 < delta then reduce fuel (delta / 35) (k + 36) else (delta, k)

/-- The bias after a gap. -/
def adapt (delta count : Nat) (first : Bool) : Nat :=
  let delta := if first then delta / 700 else delta / 2
  let (delta, k) := reduce 64 (delta + delta / count) 0
  k + 36 * delta / (delta + 38)

/-- The threshold of a digit. -/
def threshold (k bias : Nat) : Nat := if k ≤ bias then 1 else if bias + 26 ≤ k then 26 else k - bias

/-- Writes a gap with at most `fuel` digits. -/
def writeGap (bias : Nat) : Nat → Nat → Nat → List Char
  | 0, _, _ => []
  | fuel + 1, q, k =>
    let t := threshold k bias
    if q < t then [digit q]
    else digit (t + (q - t) % (36 - t)) :: writeGap bias fuel ((q - t) / (36 - t)) (k + 36)

/-- Where the writer of a label is: the next gap, the bias, how many characters are written, and
the text so far in reverse. -/
structure Writing where
  delta : Nat
  bias : Nat
  written : Nat
  out : List Char

/-- Goes over the label for the code point `n`. -/
def writePoint (n basic : Nat) (w : Writing) : List Nat → Writing
  | [] => w
  | c :: rest =>
    if c < n then writePoint n basic { w with delta := w.delta + 1 } rest
    else if c = n then
      let out := (writeGap w.bias 32 w.delta 36).reverse ++ w.out
      let bias := adapt w.delta (w.written + 1) (w.written == basic)
      writePoint n basic ⟨0, bias, w.written + 1, out⟩ rest
    else writePoint n basic w rest

/-- Writes all code points from `n` on, in at most `fuel` rounds. -/
def writeFrom (label : List Nat) (basic : Nat) : Nat → Nat → Writing → Writing
  | 0, _, w => w
  | fuel + 1, n, w =>
    match (label.filter (n ≤ ·)).min? with
    | none => w
    | some m =>
      let w := { w with delta := w.delta + (m - n) * (w.written + 1) }
      let w := writePoint m basic w label
      writeFrom label basic fuel (m + 1) { w with delta := w.delta + 1 }

/-- The ASCII form of a label, without its mark. -/
def encode (label : List Char) : List Char :=
  let basic := label.filter fun c => c.toNat < 128
  let start := if basic.isEmpty then [] else basic ++ ['-']
  let w := writeFrom (label.map Char.toNat) basic.length label.length 128
    ⟨0, 72, basic.length, start.reverse⟩
  w.out.reverse

/-- Reads a gap: its value and the rest of the text. -/
def readGap (bias : Nat) : Nat → Nat → Nat → List Char → Option (Nat × List Char)
  | _, _, _, [] => none
  | i, weight, k, c :: rest =>
    match digitValue? c with
    | none => none
    | some d =>
      let i := i + d * weight
      if UInt32.size ≤ i then none
      else
        let t := threshold k bias
        if d < t then some (i, rest) else readGap bias i (weight * (36 - t)) (k + 36) rest

/-- Inserts characters as the gaps say, at most `fuel` of them. -/
def readFrom : Nat → List Char → Nat → Nat → Nat → List Char → Option (List Char)
  | _, out, _, _, _, [] => some out
  | 0, _, _, _, _, _ => none
  | fuel + 1, out, n, i, bias, s =>
    match readGap bias i 1 36 s with
    | none => none
    | some (j, rest) =>
      let count := out.length + 1
      let bias := adapt (j - i) count (i == 0)
      let n := n + j / count
      let at_ := j % count
      if n < 0xd800 ∨ (0xdfff < n ∧ n < 0x110000) then
        readFrom fuel (out.take at_ ++ Char.ofNat n :: out.drop at_) n (at_ + 1) bias rest
      else none

/-- The label of an ASCII form without its mark. -/
def decode (s : List Char) : Option (List Char) :=
  let tail := (s.reverse.takeWhile (· != '-')).reverse
  let head := (s.take (s.length - tail.length)).dropLast
  if s.any fun c => 128 ≤ c.toNat then none
  else readFrom (s.length + 1) head 128 0 72 tail

end SiteTech.Url.Punycode
