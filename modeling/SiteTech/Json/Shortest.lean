namespace SiteTech.Json

/-- A positive binary fraction `mantissa * 2 ^ exponent`. `narrow` tells that the gap below it is
half as wide as the gap above. -/
structure Binary where
  mantissa : Nat
  exponent : Int
  narrow : Bool

namespace Binary

/-- `n * 2 ^ e * 10 ^ k` as a fraction of natural numbers. -/
def fraction (n : Nat) (e k : Int) : Nat × Nat :=
  (n * Nat.pow 2 e.toNat * Nat.pow 10 k.toNat, Nat.pow 2 (-e).toNat * Nat.pow 10 (-k).toNat)

/-- Whether `d` lies in the interval of the number divided by `10 ^ k`. -/
def holds (b : Binary) (k : Int) (d : Nat) : Bool :=
  let low := 4 * b.mantissa - (if b.narrow then 1 else 2)
  let high := 4 * b.mantissa + 2
  let (ln, ld) := fraction low (b.exponent - 2) (-k)
  let (hn, hd) := fraction high (b.exponent - 2) (-k)
  if b.mantissa % 2 == 0 then ln ≤ d * ld && d * hd ≤ hn else ln < d * ld && d * hd < hn

/-- The least `p` with the number below `10 ^ p`. -/
def magnitude (b : Binary) : Int :=
  let (n, d) := fraction b.mantissa b.exponent 0
  let guess : Int := (Nat.toDigits 10 n).length - (Nat.toDigits 10 d).length
  let (n', d') := fraction b.mantissa b.exponent (-guess)
  if n' < d' then guess else guess + 1

/-- The decimal `d * 10 ^ k` of the interval that is nearest to the number among the multiples of
`10 ^ k`; of two at the same distance the even one. -/
def nearest? (b : Binary) (k : Int) : Option Nat :=
  let (n, d) := fraction b.mantissa b.exponent (-k)
  let below := n / d
  let twice := 2 * (n % d)
  let upper := decide (d < twice) || (twice == d && below % 2 == 1)
  let best := if upper then below + 1 else below
  let other := if upper then below else below + 1
  if b.holds k best then some best else if b.holds k other then some other else none

/-- Tries decimals with more and more digits; `fuel` bounds their number. -/
def search (b : Binary) (p : Int) : Nat → Nat → Nat × Int
  | _, 0 => (b.mantissa, b.exponent)
  | digits, fuel + 1 =>
    match b.nearest? (p - digits) with
    | some d => (d, p - digits)
    | none => search b p (digits + 1) fuel

/-- The shortest decimal `d * 10 ^ k` of the number: it has the fewest digits of all that are nearer to
the number than to its neighbours, the middle counting if the mantissa is even, and of those it is the
nearest one. -/
def shortest (b : Binary) : Nat × Int := search b b.magnitude 1 20

end Binary

end SiteTech.Json
