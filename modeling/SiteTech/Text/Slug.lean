import SiteTech.Text.Case

namespace SiteTech.Text

/-- Characters that a slug keeps as they are. -/
def isSlugChar (c : Char) : Bool := ('a' ≤ c && c ≤ 'z') || ('0' ≤ c && c ≤ '9') || c == '-'

/-- Makes one dash of every run of dashes. -/
def collapseDashes : List Char → List Char
  | [] => []
  | c :: rest =>
    if c == '-' && rest.head? == some '-' then collapseDashes rest else c :: collapseDashes rest

/-- Drops one dash in front. -/
def dropDash : List Char → List Char
  | '-' :: rest => rest
  | s => s

/-- Drops one dash at either end. -/
def stripDashes (s : List Char) : List Char := (dropDash (dropDash s).reverse).reverse

/-- The slug of a list of characters. -/
def slugList (s : List Char) : List Char :=
  stripDashes (collapseDashes ((lowerList s).map fun c => if isSlugChar c then c else '-'))

/-- The slug of a name. -/
def slug (name : String) : String := String.ofList (slugList name.toList)

end SiteTech.Text
