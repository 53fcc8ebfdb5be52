import SiteTech.Text.Utf8
import SiteTech.Text.Basic

namespace SiteTech.Url

/-- A byte as a percent sign and two digits. -/
def percentByte (b : UInt8) : List Char :=
  let hex (n : Nat) : Char := if n < 10 then Char.ofNat (n + 48) else Char.ofNat (n + 55)
  ['%', hex (b.toNat / 16), hex (b.toNat % 16)]

/-- Control characters and everything outside ASCII. -/
def inControls (c : Char) : Bool := c.toNat < 0x20 || 0x7e < c.toNat

/-- Characters that are encoded in a fragment. -/
def inFragment (c : Char) : Bool := inControls c || [' ', '"', '<', '>', '`'].contains c

/-- Characters that are encoded in a path. -/
def inPath (c : Char) : Bool := inFragment c || ['#', '?', '{', '}'].contains c

/-- Characters that are encoded in a user name or password. -/
def inUserInfo (c : Char) : Bool :=
  inPath c || ['/', ':', ';', '=', '@', '[', '\\', ']', '^', '|'].contains c

/-- Characters that are encoded in a query; the flag tells of a scheme with rules of its own. -/
def inQuery (special : Bool) (c : Char) : Bool :=
  inControls c || [' ', '"', '#', '<', '>'].contains c || (special && c == '\'')

/-- Encodes the characters of a set. -/
def percentEncode (set : Char → Bool) (s : List Char) : List Char :=
  s.flatMap fun c => if set c then (Text.encode (String.singleton c)).flatMap percentByte else [c]

end SiteTech.Url
