import SiteTech.Table
import SiteTech.Text.Case
import SiteTech.Text.Utf8
import SiteTech.Text.Basic

namespace SiteTech.Http

/-- A header field. Its name is in lower case; its value is any bytes that a field may have. -/
structure Header where
  name : List Char
  value : List UInt8
deriving DecidableEq, Repr

/-- What is wrong with a field. -/
inductive HeaderFault where
  | name
  | value
deriving DecidableEq, Repr

/-- Whether a character may stand in the name of a field. -/
def isNameChar (c : Char) : Bool :=
  Text.isAsciiLetter c || Text.isAsciiDigit c ||
    ['!', '#', '$', '%', '&', '\'', '*', '+', '-', '.', '^', '_', '|', '~', Char.ofNat 0x60].contains c

/-- Whether a byte may stand in the value of a field. -/
def isValueByte (b : UInt8) : Bool := (32 ≤ b.toNat && b.toNat != 127) || b.toNat == 9

/-- Whether a byte is text that can be read without knowing its encoding. -/
def isPlainByte (b : UInt8) : Bool := (32 ≤ b.toNat && b.toNat < 127) || b.toNat == 9

/-- A field from its name and value. -/
def Header.ofParts (name : List Char) (value : List UInt8) : Except HeaderFault Header :=
  if name.isEmpty || !name.all isNameChar then .error .name
  else if !value.all isValueByte then .error .value
  else .ok ⟨Text.asciiLower name, value⟩

/-- The text of a value, when it is plain. -/
def Header.plainText? (h : Header) : Option String :=
  if h.value.all isPlainByte then some (Text.decodeLossy h.value) else none

/-- The fields as a table: the values of a name come in their order. -/
def headerTable (headers : List Header) : Table String (List String) :=
  headers.foldl
    (fun t h => t.alter (String.ofList h.name) fun old => old.getD [] ++ [Text.decodeLossy h.value])
    Table.empty

/-- The name, in lower case, and the value of a cookie, as a field sets it. Attributes come after
the first semicolon and do not count. -/
def parseSetCookie (raw : String) : Option (String × String) :=
  match Text.splitOnce '=' (Text.trimList (Text.before ';' raw.toList)) with
  | none => none
  | some (name, value) =>
    let name := Text.trimList name
    if name.isEmpty then none
    else some (String.ofList (Text.lowerList name), String.ofList (Text.trimList value))

/-- Whether a field sets a cookie. -/
def Header.setsCookie (h : Header) : Bool := h.name == "set-cookie".toList

/-- The cookies that the fields set; a later one wins over an earlier one of its name. -/
def cookieTable (headers : List Header) : Table String String :=
  Table.ofList
    ((headers.filter Header.setsCookie).filterMap fun h => h.plainText?.bind parseSetCookie)

end SiteTech.Http
