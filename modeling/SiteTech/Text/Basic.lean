namespace SiteTech.Text

/-- Blank characters: the ones with the property White_Space. -/
def isBlank (c : Char) : Bool :=
  let n := c.toNat
  (9 ≤ n && n ≤ 13) || n == 0x20 || n == 0x85 || n == 0xa0 || n == 0x1680 ||
    (0x2000 ≤ n && n ≤ 0x200a) || n == 0x2028 || n == 0x2029 || n == 0x202f || n == 0x205f ||
    n == 0x3000

/-- Drops the longest end of a list whose members all pass the test. -/
def dropEndWhile {α : Type} (p : α → Bool) (s : List α) : List α := (s.reverse.dropWhile p).reverse

/-- Drops blanks from both ends. -/
def trimList (s : List Char) : List Char := dropEndWhile isBlank (s.dropWhile isBlank)

/-- Drops blanks from both ends. -/
def trim (s : String) : String := String.ofList (trimList s.toList)

/-- Drops all slashes at the end. -/
def dropTrailingSlashes (s : List Char) : List Char := dropEndWhile (· == '/') s

/-- The two sides of the first separator, if there is one. -/
def splitOnce {α : Type} [BEq α] (sep : α) : List α → Option (List α × List α)
  | [] => none
  | c :: rest =>
    if c == sep then some ([], rest) else (splitOnce sep rest).map fun p => (c :: p.1, p.2)

/-- What stands before the first separator; all of the list if there is none. -/
def before {α : Type} [BEq α] (sep : α) (s : List α) : List α := s.takeWhile (· != sep)

/-- Puts a member in front of the first piece. -/
def consPiece {α : Type} (c : α) : List (List α) → List (List α)
  | [] => [[c]]
  | piece :: pieces => (c :: piece) :: pieces

/-- The pieces between separators. -/
def splitOn {α : Type} [BEq α] (sep : α) : List α → List (List α)
  | [] => [[]]
  | c :: rest => if c == sep then [] :: splitOn sep rest else consPiece c (splitOn sep rest)

/-- The pieces between occurrences of a non-empty separating text, after skipping `skip` members.
Occurrences are taken from the left and do not overlap. -/
def piecesFrom {α : Type} [BEq α] (sep : List α) : Nat → List α → List (List α)
  | _, [] => [[]]
  | skip + 1, _ :: rest => piecesFrom sep skip rest
  | 0, c :: rest =>
    if sep.isPrefixOf (c :: rest) then [] :: piecesFrom sep (sep.length - 1) rest
    else consPiece c (piecesFrom sep 0 rest)

/-- The pieces between occurrences of a non-empty separating text. -/
def pieces {α : Type} [BEq α] (sep s : List α) : List (List α) := piecesFrom sep 0 s

/-- Joins pieces with a separating text. -/
def join {α : Type} (sep : List α) : List (List α) → List α
  | [] => []
  | [piece] => piece
  | piece :: rest => piece ++ sep ++ join sep rest

/-- Writes one text for every occurrence of another, non-empty one. -/
def replace {α : Type} [BEq α] (old new s : List α) : List α := join new (pieces old s)

/-- Whether one text occurs in another. -/
def occursIn {α : Type} [BEq α] (needle : List α) : List α → Bool
  | [] => needle.isEmpty
  | c :: rest => needle.isPrefixOf (c :: rest) || occursIn needle rest

/-- The value of a decimal digit. -/
def digitValue? (c : Char) : Option Nat :=
  if '0' ≤ c ∧ c ≤ '9' then some (c.toNat - '0'.toNat) else none

/-- The value of a hexadecimal digit, in either case. -/
def hexValue? (c : Char) : Option Nat :=
  if '0' ≤ c ∧ c ≤ '9' then some (c.toNat - '0'.toNat)
  else if 'a' ≤ c ∧ c ≤ 'f' then some (c.toNat - 'a'.toNat + 10)
  else if 'A' ≤ c ∧ c ≤ 'F' then some (c.toNat - 'A'.toNat + 10)
  else none

/-- The number that decimal digits write, after a number already read. -/
def readDigits (acc : Nat) : List Char → Option Nat
  | [] => some acc
  | c :: rest => (digitValue? c).bind fun d => readDigits (acc * 10 + d) rest

/-- Reads a number in decimal digits, one plus sign allowed in front, that is below a bound. -/
def readNatBelow (bound : Nat) (s : List Char) : Option Nat :=
  let digits := match s with
    | '+' :: rest => rest
    | _ => s
  if digits.isEmpty then none
  else (readDigits 0 digits).filter (· < bound)

/-- Reads an unsigned number of 32 bits. -/
def readUInt32 (s : List Char) : Option UInt32 := (readNatBelow UInt32.size s).map UInt32.ofNat

/-- Whether a character is an ASCII letter. -/
def isAsciiLetter (c : Char) : Bool := ('a' ≤ c && c ≤ 'z') || ('A' ≤ c && c ≤ 'Z')

/-- Whether a character is an ASCII digit. -/
def isAsciiDigit (c : Char) : Bool := '0' ≤ c && c ≤ '9'

/-- Whether a character is an ASCII hexadecimal digit. -/
def isHexDigit (c : Char) : Bool := (hexValue? c).isSome

/-- Lower case of the ASCII letters; other characters stay. -/
def asciiLower (s : List Char) : List Char := s.map Char.toLower

/-- Equality up to the case of ASCII letters. -/
def sameAscii (s t : List Char) : Bool := asciiLower s == asciiLower t

/-- The decimal digits of a number. -/
def decimal (n : Nat) : List Char := Nat.toDigits 10 n

/-- Hexadecimal digits of a number, in lower case, padded with zeros to a width. -/
def hexPadded (width n : Nat) : List Char :=
  let digits := Nat.toDigits 16 n
  List.replicate (width - digits.length) '0' ++ digits

end SiteTech.Text
