namespace SiteTech.Text

/-- The value of a digit of a packed table; other characters count as zero. -/
def packedDigit (c : Char) : Nat :=
  if '0' ≤ c ∧ c ≤ '9' then c.toNat - '0'.toNat
  else if 'a' ≤ c ∧ c ≤ 'f' then c.toNat - 'a'.toNat + 10
  else 0

/-- What has been read of a packed table: the rows, the row before the current number, both in
reverse, and the current number. -/
structure Packed where
  rows : List (List Nat)
  row : List Nat
  number : Nat

/-- Ends a row. -/
def Packed.close (p : Packed) : Packed := ⟨(p.number :: p.row).reverse :: p.rows, [], 0⟩

/-- Reads one character. -/
def Packed.step (p : Packed) (c : Char) : Packed :=
  if c = ' ' then p.close
  else if c = '-' then { p with row := p.number :: p.row, number := 0 }
  else { p with number := p.number * 16 + packedDigit c }

/-- The rows of a packed table. -/
def packedRows (text : String) : List (List Nat) :=
  (text.foldl Packed.step ⟨[], [], 0⟩).close.rows.reverse

end SiteTech.Text
