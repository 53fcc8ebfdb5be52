import SiteTech.Text.Basic

namespace SiteTech.Html

/-- An attribute. It is qualified if its name belongs to another vocabulary than its element, such as
that of links; on a tag as it is written no attribute is. -/
structure Attribute where
  name : String
  value : String
  qualified : Bool
deriving DecidableEq, Repr, Inhabited

/-- A start tag. No two of its attributes have the same name. -/
structure Tag where
  name : String
  attributes : List Attribute
  selfClosing : Bool
deriving DecidableEq, Repr, Inhabited

/-- The value of an attribute of a tag. -/
def Tag.value? (t : Tag) (name : String) : Option String :=
  (t.attributes.find? fun a => a.name == name).map (·.value)

/-- A document type. `incomplete` says that it has no proper end or no proper parts. -/
structure Doctype where
  name : Option String
  publicId : Option String
  systemId : Option String
  incomplete : Bool
deriving DecidableEq, Repr, Inhabited

/-- A piece of markup. Nothing depends on what a comment says. -/
inductive Token where
  | text (content : List Char)
  | startTag (tag : Tag)
  | endTag (name : String)
  | comment
  | doctype (type : Doctype)
deriving DecidableEq, Repr, Inhabited

/-- How the text inside an element is read: whether character references count in it, and whether
it may hold the text of a script. -/
inductive RawKind where
  | escapable
  | verbatim
  | script
deriving DecidableEq, Repr, Inhabited

/-- What comes next in a document: markup, the text of an element up to its end tag, or text up to
the end of the document. -/
inductive Content where
  | markup
  | raw (kind : RawKind) (element : String)
  | plain
deriving DecidableEq, Repr, Inhabited

/-- The blanks of markup. -/
def isSpace (c : Char) : Bool :=
  c == ' ' || c == '\n' || c == '\t' || c == '\r' || c == Char.ofNat 0xc

/-- What stands for characters that have no place in a document. -/
def replacement : Char := Char.ofNat 0xfffd

/-- Writes the replacement character for NUL. -/
def withoutNul (c : Char) : Char := if c.toNat = 0 then replacement else c

end SiteTech.Html
