import SiteTech.Regex
import SiteTech.Signature.Template

namespace SiteTech

/-- A signature that has been read. -/
structure Pattern where
  literal : String
  regex : Option Regex
  template : String
  confidence : UInt32

namespace Pattern

/-- The confidence of a signature that states none. -/
def defaultConfidence : UInt32 := 100

/-- What stands between the parts of a signature. -/
def separator : List Char := ['\\', ';']

/-- Undoes the escapes of slashes, and then those of backslashes. -/
def unescape (s : List Char) : List Char :=
  Text.replace ['\\', '\\'] ['\\'] (Text.replace ['\\', '/'] ['/'] s)

/-- The signature of a literal without modifiers. -/
def ofLiteral (literal : List Char) : Pattern :=
  if literal.isEmpty then ⟨"", none, "", defaultConfidence⟩
  else
    ⟨String.ofList literal, Regex.ofSource? true (String.ofList (unescape literal)), "",
      defaultConfidence⟩

/-- Applies one modifier. -/
def modify (p : Pattern) (modifier : List Char) : Pattern :=
  match Text.splitOnce ':' modifier with
  | none => p
  | some (name, value) =>
    if name = "version".toList then { p with template := String.ofList value }
    else if name = "confidence".toList then
      match Text.readUInt32 (Text.trimList value) with
      | some n => { p with confidence := n }
      | none => p
    else p

/-- The signature of its parts. -/
def ofParts : List (List Char) → Pattern
  | [] => ofLiteral []
  | literal :: modifiers => modifiers.foldl modify (ofLiteral literal)

/-- Reads a signature, which is written `literal\;name:value\;name:value`. The modifier `version` gives
a version template and `confidence` a number; the last one of a name counts, and other parts do not. -/
def ofText (text : String) : Pattern := ofParts (Text.pieces separator text.toList)

/-- Whether the signature only asks for presence: its literal is empty. -/
def isPresence (p : Pattern) : Bool := p.literal.isEmpty

/-- Whether the pattern of the signature matches in a text. -/
def isMatch (p : Pattern) (text : String) : Bool :=
  match p.regex with
  | some r => r.isMatch text
  | none => false

/-- Whether the signature accepts the value of a named piece of evidence. -/
def accepts (p : Pattern) (text : String) : Bool := p.isPresence || p.isMatch text

/-- The greater of two versions. -/
def greater (best version : String) : String :=
  if version ≠ "" ∧ best < version then version else best

/-- The version that a text shows: the greatest that any match in it gives. -/
def version (p : Pattern) (text : String) : String :=
  if p.template.isEmpty then ""
  else
    match p.regex with
    | none => ""
    | some r => ((r.captures text).map (Template.render p.template)).foldl greater ""

/-- What the signature looks for, in words for a reader. -/
def describe (p : Pattern) : String :=
  match p.regex with
  | some r => r.source
  | none => "exists"

end Pattern

end SiteTech
