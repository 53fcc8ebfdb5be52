import SiteTech.Text.Basic

namespace SiteTech.Template

/-- How a template refers to a group. -/
def reference (index : Nat) : List Char := '\\' :: Text.decimal index

/-- The two sides of a choice that starts here. The first side is not empty and ends at the first
colon; the second goes to the end and has no line break. -/
def choiceHere (mark s : List Char) : Option (List Char × List Char) :=
  if mark.isPrefixOf s then
    match Text.splitOnce ':' (s.drop mark.length) with
    | some (yes, no) => if yes.isEmpty || no.contains '\n' then none else some (yes, no)
    | none => none
  else none

/-- Puts the chosen side in the place of the first choice that starts with the mark. -/
def choose (mark : List Char) (matched : Bool) : List Char → List Char
  | [] => []
  | c :: rest =>
    match choiceHere mark (c :: rest) with
    | some (yes, no) => if matched then yes else no
    | none => c :: choose mark matched rest

/-- Fills in one group. -/
def fill (template : List Char) (index : Nat) (text : List Char) : List Char :=
  let mark := reference index
  Text.replace mark text (choose (mark ++ ['?']) (!text.isEmpty) template)

/-- Fills in groups from an index on. -/
def fillFrom (template : List Char) : Nat → List (List Char) → List Char
  | _, [] => template
  | index, text :: rest => fillFrom (fill template index text) (index + 1) rest

/-- Fills in the texts of all groups of a match, the whole match first. A group without part in the
match has the empty text. `\N` stands for the text of group `N`, and `\N?A:B`, up to the end of the
template, for `A` when that text is not empty and for `B` when it is. -/
def render (template : String) (groups : List (Option String)) : String :=
  String.ofList (fillFrom template.toList 0 (groups.map fun g => (g.getD "").toList))

end SiteTech.Template
