import SiteTech.Html.NamedData

namespace SiteTech.Html

/-- What the numbers from 128 to 159 refer to, where it is not the character of that number. -/
def oldControls : List (Nat × Nat) :=
  [(0x80, 0x20ac), (0x82, 0x201a), (0x83, 0x192), (0x84, 0x201e), (0x85, 0x2026), (0x86, 0x2020),
   (0x87, 0x2021), (0x88, 0x2c6), (0x89, 0x2030), (0x8a, 0x160), (0x8b, 0x2039), (0x8c, 0x152),
   (0x8e, 0x17d), (0x91, 0x2018), (0x92, 0x2019), (0x93, 0x201c), (0x94, 0x201d), (0x95, 0x2022),
   (0x96, 0x2013), (0x97, 0x2014), (0x98, 0x2dc), (0x99, 0x2122), (0x9a, 0x161), (0x9b, 0x203a),
   (0x9c, 0x153), (0x9e, 0x17e), (0x9f, 0x178)]

/-- The character that a number refers to. -/
def numberedCharacter (n : Nat) : Char :=
  match oldControls.lookup n with
  | some m => Char.ofNat m
  | none => if n = 0 ∨ ¬ n.isValidChar then Char.ofNat 0xfffd else Char.ofNat n

/-- A reference that has been read: the text it stands for and the number of characters it takes
after the ampersand. -/
structure Reference where
  text : List Char
  length : Nat

/-- The number that digits of a base write. -/
def numberOf (base : Nat) (digits : List Char) : Nat :=
  digits.foldl (fun n c => n * base + (Text.hexValue? c).getD 0) 0

/-- The reference that digits make; `skipped` characters come before the digits. -/
def numericReference (base skipped : Nat) (isDigit : Char → Bool) (s : List Char) :
    Option Reference :=
  let digits := s.takeWhile isDigit
  if digits.isEmpty then none
  else
    let close := if (s.drop digits.length).head? = some ';' then 1 else 0
    some ⟨[numberedCharacter (numberOf base digits)], skipped + digits.length + close⟩

/-- The number of characters that a name takes at the front of a text: with its semicolon, or
without it if it may go without. -/
def NamedCharacter.lengthIn? (n : NamedCharacter) (s : List Char) : Option Nat :=
  if n.name.isPrefixOf s then
    if (s.drop n.name.length).head? = some ';' then some (n.name.length + 1)
    else if n.bare then some n.name.length
    else none
  else none

/-- The reference of the longest name at the front of a text. -/
def longestName (s : List Char) : Option Reference :=
  namedCharacters.foldl
    (fun best n =>
      match n.lengthIn? s with
      | none => best
      | some length =>
        if (best.map (·.length)).getD 0 < length then some ⟨n.text, length⟩ else best)
    none

/-- Whether a name without its semicolon counts in an attribute: not where a letter, a digit or an
equals sign follows, since then it is more likely the next part of a query. -/
def endsInAttribute (s : List Char) (length : Nat) : Bool :=
  (s.drop (length - 1)).head? == some ';' ||
    match (s.drop length).head? with
    | some c => !(c.isAlphanum || c == '=')
    | none => true

/-- Reads the reference after an ampersand. -/
def Reference.read? (inAttribute : Bool) : List Char → Option Reference
  | '#' :: 'x' :: rest => numericReference 16 2 Text.isHexDigit rest
  | '#' :: 'X' :: rest => numericReference 16 2 Text.isHexDigit rest
  | '#' :: rest => numericReference 10 1 Text.isAsciiDigit rest
  | s => (longestName s).filter fun r => !inAttribute || endsInAttribute s r.length

/-- Replaces references by what they stand for, after skipping `skip` characters. -/
def expandFrom (inAttribute : Bool) : Nat → List Char → List Char
  | _, [] => []
  | skip + 1, _ :: rest => expandFrom inAttribute skip rest
  | 0, '&' :: rest =>
    match Reference.read? inAttribute rest with
    | some r => r.text ++ expandFrom inAttribute r.length rest
    | none => '&' :: expandFrom inAttribute 0 rest
  | 0, c :: rest => c :: expandFrom inAttribute 0 rest

/-- The text with every reference replaced by what it stands for. -/
def expandReferences (inAttribute : Bool) (s : List Char) : List Char := expandFrom inAttribute 0 s

end SiteTech.Html
