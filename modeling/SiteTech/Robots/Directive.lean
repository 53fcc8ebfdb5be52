import SiteTech.Text.Basic
import SiteTech.Text.Utf8
import SiteTech.Url.Encode

namespace SiteTech.Robots

/-- What a line says. -/
inductive Directive where
  | agent (name : List Char)
  | allow (pattern : List Char)
  | disallow (pattern : List Char)
  | other
deriving DecidableEq, Repr

/-- The greatest number of bytes of a line that are read. -/
def maxLineBytes : Nat := 2083 * 8 - 1

/-- Takes characters as long as they begin within a number of bytes. -/
def takeBytes : Nat → List Char → List Char
  | 0, _ => []
  | _, [] => []
  | n + 1, c :: rest => c :: takeBytes (n + 1 - c.utf8Size) rest

/-- Drops a mark of the byte order that has been read byte by byte, or the beginning of one. -/
def dropMark : List Char → List Char → List Char
  | m :: mark, c :: rest => if m = c then dropMark mark rest else c :: rest
  | _, s => s

/-- The lines of a file. A line ends with a line feed or a carriage return; empty lines between the
two say nothing. -/
def linesOf (body : List Char) : List (List Char) :=
  (Text.splitOn '\n' ((dropMark ['\u00ef', '\u00bb', '\u00bf'] body).map fun c =>
    if c = '\r' then '\n' else c)).map (takeBytes maxLineBytes)

/-- Whether a character is a space or a tab. -/
def isGap (c : Char) : Bool := c == ' ' || c == '\t'

/-- Parts a line into a key and a value. A colon stands between them; if there is none, a gap does,
but only if it is the only one of the line. -/
def keyValue? (line : List Char) : Option (List Char × List Char) :=
  let line := Text.trimList (Text.before '#' line)
  match Text.splitOnce ':' line with
  | some (key, value) => some (Text.trimList key, Text.trimList value)
  | none =>
    let (key, rest) := line.span fun c => !isGap c
    let value := rest.dropWhile isGap
    if value.isEmpty || value.any isGap then none else some (key, Text.trimList value)

/-- Whether a key begins with one of some words. -/
def beginsWithAny (words : List String) (key : List Char) : Bool :=
  words.any fun w => w.toList.isPrefixOf (Text.asciiLower key)

/-- The normal form of a pattern: the digits of escapes are in upper case, and characters outside of
ASCII are escaped. -/
def escapePattern : List Char → List Char
  | [] => []
  | '%' :: a :: b :: rest =>
    if Text.isHexDigit a && Text.isHexDigit b then
      '%' :: a.toUpper :: b.toUpper :: escapePattern rest
    else '%' :: escapePattern (a :: b :: rest)
  | c :: rest =>
    if c.toNat < 0x80 then c :: escapePattern rest
    else (Text.encode (String.singleton c)).flatMap Url.percentByte ++ escapePattern rest

/-- Reads a line. Lines without a key say nothing. -/
def Directive.ofLine? (line : List Char) : Option Directive :=
  match keyValue? line with
  | none => none
  | some (key, value) =>
    if key.isEmpty then none
    else if beginsWithAny ["user-agent", "useragent", "user agent"] key then some (.agent value)
    else if beginsWithAny ["allow"] key then some (.allow (escapePattern value))
    else if beginsWithAny
        ["disallow", "dissallow", "dissalow", "disalow", "diasllow", "disallaw"] key then
      some (.disallow (escapePattern value))
    else some .other

/-- Reads a file. -/
def Directive.ofBody (body : List Char) : List Directive :=
  (linesOf body).filterMap Directive.ofLine?

end SiteTech.Robots
