import SiteTech.Html.TokenReader
import SiteTech.Table
import SiteTech.Text.Case

namespace SiteTech.Html

/-- The evidence in the tags of a page: addresses of scripts, and the contents of meta tags by their
name, which is kept in lower case. -/
structure TagEvidence where
  scripts : List String
  metas : Table String (List String)

namespace TagEvidence

/-- No evidence. -/
def empty : TagEvidence := ⟨[], Table.empty⟩

/-- The address of the script that a tag loads. -/
def scriptSource? (t : Tag) : Option String :=
  ((t.value? "src").map Text.trim).filter fun s => !s.isEmpty

/-- The name and the content of a meta tag. One that has no name may have a property instead. -/
def metaEntry? (t : Tag) : Option (String × String) :=
  match (t.value? "name").or (t.value? "property"), t.value? "content" with
  | some key, some content => some (Text.lower key, content)
  | _, _ => none

/-- Takes in one piece of a page. -/
def add (e : TagEvidence) : Token → TagEvidence
  | .startTag t =>
    if t.name = "script" then
      match scriptSource? t with
      | some source => { e with scripts := e.scripts ++ [source] }
      | none => e
    else if t.name = "meta" then
      match metaEntry? t with
      | some (key, content) =>
        { e with metas := e.metas.alter key fun old => old.getD [] ++ [content] }
      | none => e
    else e
  | _ => e

/-- The evidence of a page. -/
def ofPage (html : String) : TagEvidence := (Token.ofMarkup html).foldl add empty

end TagEvidence

end SiteTech.Html
