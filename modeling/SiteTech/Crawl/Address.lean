import SiteTech.Text.Word
import SiteTech.Text.Basic

namespace SiteTech.Address

/-- Characters of a host. -/
def isHostChar (c : Char) : Bool := Text.isWord c || c == '.' || c == '-'

/-- Characters of the rest of an address. -/
def isRestChar (c : Char) : Bool :=
  isHostChar c || ['_', '~', ':', '/', '?', '#', '[', ']', '@', '!', '$', '&', '\'', '(', ')', '*',
    '+', ',', ';', '='].contains c

/-- How far an address may have been read: in its first label, right after a dot, in a later label,
or in the rest. Several may be true at once. -/
structure Progress where
  first : Bool
  dot : Bool
  label : Bool
  rest : Bool
deriving DecidableEq, Repr

/-- Reads one character. -/
def Progress.step (p : Progress) (c : Char) : Progress :=
  { first := p.first && isHostChar c
    dot := (p.first || p.label) && c == '.'
    label := (p.dot || p.label) && isHostChar c
    rest := (p.label || p.rest) && isRestChar c }

/-- Whether a text is a host with a dot in it, and more after the dot: some characters of a host,
one or more times a dot with characters of a host, and some characters of an address. -/
def accepts : List Char → Bool
  | [] => false
  | c :: s => (s.foldl Progress.step ⟨isHostChar c, false, false, false⟩).rest

/-- A text without one of the two schemes of web pages. -/
def dropScheme (s : List Char) : List Char :=
  if "http://".toList.isPrefixOf s then s.drop 7
  else if "https://".toList.isPrefixOf s then s.drop 8
  else s

/-- Whether a text passes for the address of a page. -/
def isValid (address : String) : Bool := accepts (dropScheme address.toList)

/-- The form under which a page counts as visited: without blanks around it and slashes at its
end. -/
def normalize (address : String) : String :=
  String.ofList (Text.dropTrailingSlashes (Text.trimList address.toList))

end SiteTech.Address
