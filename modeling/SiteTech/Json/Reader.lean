import SiteTech.Json.Value
import SiteTech.Text.Utf8

namespace SiteTech.Json

/-- A character, or `none` for bytes that are not well formed. -/
abbrev Symbol := Option Char

/-- Whether a symbol is a blank between tokens. -/
def isSpace : Symbol → Bool
  | some c => c == ' ' || c == '\n' || c == '\r' || c == '\t'
  | none => false

/-- Drops blanks between tokens. -/
def skipSpace (s : List Symbol) : List Symbol := s.dropWhile isSpace

/-- Reads a fixed word. -/
def readWord : List Char → List Symbol → Option (List Symbol)
  | [], s => some s
  | c :: word, some d :: s => if c = d then readWord word s else none
  | _ :: _, _ => none

/-- The digits at the front. -/
def digitsOf (s : List Symbol) : List Char × List Symbol :=
  match s with
  | some c :: rest =>
    if Text.isAsciiDigit c then
      let (ds, rest) := digitsOf rest
      (c :: ds, rest)
    else ([], s)
  | _ => ([], s)

/-- Reads the part of a number after the point, if there is a point. -/
def readFraction (s : List Symbol) : Option (Option (List Char) × List Symbol) :=
  match s with
  | some '.' :: rest =>
    match digitsOf rest with
    | ([], _) => none
    | (ds, rest) => some (some ds, rest)
  | _ => some (none, s)

/-- Reads the digits of an exponent. -/
def readExponentDigits (down : Bool) (s : List Symbol) :
    Option (Option (Bool × List Char) × List Symbol) :=
  match digitsOf s with
  | ([], _) => none
  | (ds, rest) => some (some (down, ds), rest)

/-- Reads the exponent of a number, if there is one. -/
def readExponent (s : List Symbol) : Option (Option (Bool × List Char) × List Symbol) :=
  match s with
  | some c :: rest =>
    if c = 'e' ∨ c = 'E' then
      match rest with
      | some '+' :: rest => readExponentDigits false rest
      | some '-' :: rest => readExponentDigits true rest
      | _ => readExponentDigits false rest
    else some (none, s)
  | _ => some (none, s)

/-- Reads a number after its sign. -/
def readNumeral (negative : Bool) (s : List Symbol) : Option (Numeral × List Symbol) :=
  match digitsOf s with
  | ([], _) => none
  | ('0' :: _ :: _, _) => none
  | (whole, rest) => do
    let (fraction, rest) ← readFraction rest
    let (exponent, rest) ← readExponent rest
    return (⟨negative, whole, fraction, exponent⟩, rest)

/-- Reads the four digits of a numbered character. -/
def readHex : List Symbol → Option (Nat × List Symbol)
  | some a :: some b :: some c :: some d :: rest => do
    let a ← Text.hexValue? a
    let b ← Text.hexValue? b
    let c ← Text.hexValue? c
    let d ← Text.hexValue? d
    return (a * 4096 + b * 256 + c * 16 + d, rest)
  | _ => none

/-- The character of a one-letter escape. -/
def escapeChar? (c : Char) : Option Char :=
  if c = '"' ∨ c = '\\' ∨ c = '/' then some c
  else if c = 'b' then some '\x08'
  else if c = 'f' then some '\x0c'
  else if c = 'n' then some '\n'
  else if c = 'r' then some '\r'
  else if c = 't' then some '\t'
  else none

/-- Joins two halves of a character beyond the first plane. -/
def joinSurrogates (high low : Nat) : Char :=
  Char.ofNat (0x10000 + (high - 0xd800) * 0x400 + (low - 0xdc00))

/-- Reads the rest of a string. The text read so far is in reverse; it is `none` once something
in it was no text. -/
def readString : Nat → Option (List Char) → List Symbol → Option (Option String × List Symbol)
  | 0, _, _ => none
  | _, _, [] => none
  | fuel + 1, _, none :: rest => readString fuel none rest
  | fuel + 1, acc, some c :: rest =>
    if c = '"' then some (acc.map fun l => String.ofList l.reverse, rest)
    else if c.toNat < 0x20 then none
    else if c = '\\' then
      match rest with
      | some 'u' :: rest =>
        match readHex rest with
        | none => none
        | some (n, rest) =>
          if n < 0xd800 ∨ 0xdfff < n then readString fuel (acc.map (Char.ofNat n :: ·)) rest
          else if 0xdc00 ≤ n then readString fuel none rest
          else
            match rest with
            | some '\\' :: some 'u' :: rest' =>
              match readHex rest' with
              | some (m, rest'') =>
                if 0xdc00 ≤ m ∧ m ≤ 0xdfff then
                  readString fuel (acc.map (joinSurrogates n m :: ·)) rest''
                else readString fuel none rest
              | none => none
            | _ => readString fuel none rest
      | some e :: rest =>
        match escapeChar? e with
        | some d => readString fuel (acc.map (d :: ·)) rest
        | none => none
      | _ => none
    else readString fuel (acc.map (c :: ·)) rest

/-- Reads a string after its opening quote. -/
def readText (s : List Symbol) : Option (Option String × List Symbol) :=
  readString (s.length + 1) (some []) s

mutual

/-- Reads a document at the front of a text. -/
def readValue : Nat → List Symbol → Option (Raw × List Symbol)
  | 0, _ => none
  | fuel + 1, s =>
    match skipSpace s with
    | some '{' :: rest =>
      match skipSpace rest with
      | some '}' :: rest => some (.object [], rest)
      | rest => readMembers fuel [] rest
    | some '[' :: rest =>
      match skipSpace rest with
      | some ']' :: rest => some (.array [], rest)
      | rest => readItems fuel [] rest
    | some '"' :: rest => (readText rest).map fun (t, rest) => (.string t, rest)
    | some 't' :: rest => (readWord ['r', 'u', 'e'] rest).map fun rest => (.bool true, rest)
    | some 'f' :: rest => (readWord ['a', 'l', 's', 'e'] rest).map fun rest => (.bool false, rest)
    | some 'n' :: rest => (readWord ['u', 'l', 'l'] rest).map fun rest => (.null, rest)
    | some '-' :: rest =>
      (readNumeral true rest).map fun (n, rest) => (.number n.value?, rest)
    | rest => (readNumeral false rest).map fun (n, rest) => (.number n.value?, rest)

/-- Reads the items of an array from one on. The items before it are in reverse. -/
def readItems : Nat → List Raw → List Symbol → Option (Raw × List Symbol)
  | 0, _, _ => none
  | fuel + 1, acc, s =>
    match readValue fuel s with
    | none => none
    | some (r, rest) =>
      match skipSpace rest with
      | some ',' :: rest => readItems fuel (r :: acc) rest
      | some ']' :: rest => some (.array (r :: acc).reverse, rest)
      | _ => none

/-- Reads the members of an object from one on. The members before it are in reverse. -/
def readMembers : Nat → List (Option String × Raw) → List Symbol → Option (Raw × List Symbol)
  | 0, _, _ => none
  | fuel + 1, acc, s =>
    match skipSpace s with
    | some '"' :: rest =>
      match readText rest with
      | none => none
      | some (name, rest) =>
        match skipSpace rest with
        | some ':' :: rest =>
          match readValue fuel rest with
          | none => none
          | some (r, rest) =>
            match skipSpace rest with
            | some ',' :: rest => readMembers fuel ((name, r) :: acc) rest
            | some '}' :: rest => some (.object ((name, r) :: acc).reverse, rest)
            | _ => none
        | _ => none
    | _ => none

end

/-- Reads a text that is one document with blanks around it. -/
def Raw.ofSymbols? (s : List Symbol) : Option Raw :=
  match readValue (2 * s.length + 2) s with
  | some (r, rest) => if (skipSpace rest).isEmpty then some r else none
  | none => none

/-- Reads a document from bytes. -/
def Raw.ofBytes? (bytes : List UInt8) : Option Raw := Raw.ofSymbols? (Text.decode bytes)

/-- Reads a document from a text. -/
def Raw.ofText? (text : String) : Option Raw := Raw.ofSymbols? (text.toList.map some)

/-- Reads a text that is a document without faults. -/
def Value.ofText? (text : String) : Option Value :=
  (Raw.ofText? text).bind (Raw.value? Raw.maxDepth)

end SiteTech.Json
