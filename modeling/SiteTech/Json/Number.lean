import SiteTech.Json.Shortest
import SiteTech.Text.Basic

namespace SiteTech.Json

/-- A double, held as its bits. -/
structure Double where
  bits : UInt64
deriving DecidableEq, Repr, Inhabited

/-- A number of a document. -/
inductive Number where
  | whole (n : Int)
  | double (x : Double)
deriving DecidableEq, Repr, Inhabited

namespace Double

/-- The double of a floating-point value. -/
def ofFloat (x : Float) : Double := ⟨x.toBits⟩

/-- The binary fraction that is the size of a finite double, if it is not zero. -/
def binary? (x : Double) : Option Binary :=
  let bits := x.bits.toNat % (1 <<< 63)
  let fraction := bits % (1 <<< 52)
  let field : Nat := bits >>> 52
  if bits == 0 then none
  else if field == 0 then some ⟨fraction, -1074, false⟩
  else some ⟨(1 <<< 52) + fraction, (field : Int) - 1075, fraction == 0 && field != 1⟩

/-- Drops zeros at the end of a decimal. -/
def dropZeros : Nat → Nat × Int → Nat × Int
  | 0, dk => dk
  | fuel + 1, (d, k) =>
    if d != 0 && d % 10 == 0 then dropZeros fuel (d / 10, k + 1) else (d, k)

/-- The text of the decimal `d * 10 ^ k`: positional from `10 ^ -5` to below `10 ^ 16`, always
with a point, and else with an exponent. -/
def decimalText (d : Nat) (k : Int) : List Char :=
  let digits := Text.decimal d
  let point := k + digits.length
  if 0 ≤ k ∧ point ≤ 16 then digits ++ List.replicate k.toNat '0' ++ ['.', '0']
  else if 0 < point ∧ point ≤ 16 then
    digits.take point.toNat ++ '.' :: digits.drop point.toNat
  else if -5 < point ∧ point ≤ 0 then
    '0' :: '.' :: List.replicate (-point).toNat '0' ++ digits
  else
    let exponent := point - 1
    let sign := if exponent < 0 then '-' else '+'
    let front := match digits with
      | [a] => [a]
      | a :: rest => a :: '.' :: rest
      | [] => []
    front ++ 'e' :: sign :: Text.decimal exponent.natAbs

/-- The text of a finite double: the shortest decimal that reads back as it. -/
def text (x : Double) : List Char :=
  let size := match x.binary? with
    | none => ['0', '.', '0']
    | some b =>
      let (d, k) := dropZeros 20 b.shortest
      decimalText d k
  if x.bits.toNat < 1 <<< 63 then size else '-' :: size

end Double

/-- The text of a number. -/
def Number.text : Number → List Char
  | .whole n => if n < 0 then '-' :: Text.decimal n.natAbs else Text.decimal n.natAbs
  | .double x => x.text

/-- The digits that a number keeps while it is read: at most 64 bits of them, and the power of
ten that stands for the rest. -/
structure Digits where
  significand : Nat
  exponent : Int
  full : Bool

/-- Adds a digit before the point. A digit that does not fit, and all after it, only scale. -/
def Digits.pushWhole (d : Digits) (v : Nat) : Digits :=
  let next := d.significand * 10 + v
  if d.full || UInt64.size ≤ next then { d with exponent := d.exponent + 1, full := true }
  else { d with significand := next }

/-- Adds a digit after the point. A digit that does not fit, and all after it, are dropped. -/
def Digits.pushFraction (d : Digits) (v : Nat) : Digits :=
  let next := d.significand * 10 + v
  if d.full || UInt64.size ≤ next then { d with full := true }
  else { d with significand := next, exponent := d.exponent - 1 }

/-- The power of ten with an exponent of at most 308. -/
def power (n : Nat) : Float := Float.ofScientific 1 false n

/-- Scales a value by a power of ten, in one step where a double can hold the power. `none` when
the result is too large. -/
def scale (x : Float) (exponent : Int) : Nat → Option Float
  | 0 => some x
  | fuel + 1 =>
    if exponent.natAbs ≤ 308 then
      if 0 ≤ exponent then
        let y := x * power exponent.natAbs
        if y.isInf then none else some y
      else some (x / power exponent.natAbs)
    else if x == 0 then some x
    else if 0 ≤ exponent then none
    else scale (x / power 308) (exponent + 308) fuel

/-- The value of the digits of a decimal. -/
def Digits.value? (d : Digits) (negative : Bool) : Option Number :=
  (scale (UInt64.ofNat d.significand).toFloat d.exponent 8).map fun x =>
    .double (Double.ofFloat (if negative then -x else x))

/-- The parts of a number as it is written. -/
structure Numeral where
  negative : Bool
  whole : List Char
  fraction : Option (List Char)
  exponent : Option (Bool × List Char)

/-- The values of a list of digits. -/
def digitValues (s : List Char) : List Nat := s.filterMap Text.digitValue?

/-- The value of a numeral; `none` when it is beyond the doubles. -/
def Numeral.value? (n : Numeral) : Option Number :=
  let whole := (digitValues n.whole).foldl Digits.pushWhole ⟨0, 0, false⟩
  if n.fraction.isNone && n.exponent.isNone && !whole.full then
    if !n.negative then some (.whole whole.significand)
    else if whole.significand = 0 ∨ 1 <<< 63 < whole.significand then whole.value? true
    else some (.whole (-whole.significand))
  else
    let digits := match n.fraction with
      | none => whole
      | some f => (digitValues f).foldl Digits.pushFraction { whole with full := false }
    match n.exponent with
    | none => digits.value? n.negative
    | some (down, e) =>
      let size : Nat := (digitValues e).foldl (fun a v => a * 10 + v) 0
      if 1 <<< 31 ≤ size then
        if digits.significand ≠ 0 ∧ ¬ down then none
        else some (.double (Double.ofFloat (if n.negative then -0.0 else 0.0)))
      else
        let shift : Int := if down then -(size : Int) else size
        { digits with exponent := digits.exponent + shift }.value? n.negative

end SiteTech.Json
