import SiteTech.Signature.Spec

namespace SiteTech

/-- What a check looks at. Properties belong to a running page, so that a check of them never
succeeds on its text. -/
inductive DomMode where
  | text
  | exists
  | attributes
  | properties
deriving DecidableEq, Repr

/-- Reads the name of a mode. -/
def DomMode.ofName? (name : String) : Option DomMode :=
  if name = "text" then some .text
  else if name = "exists" then some .exists
  else if name = "attributes" then some .attributes
  else if name = "properties" then some .properties
  else none

/-- One check on an element. Its signatures go by attribute names where attributes are checked. -/
structure DomCheck where
  mode : DomMode
  patterns : PatternTable

/-- A selector and the checks on the first element that it finds. -/
structure DomRule where
  selector : String
  checks : List DomCheck

namespace DomRule

/-- The rule that an element is present. -/
def presence (selector : String) : DomRule :=
  ⟨selector, [⟨.exists, Table.empty.insert mainKey [Pattern.ofText ""]⟩]⟩

/-- Reads one check. -/
def check? (mode : String) (spec : Json.Value) : Option DomCheck :=
  (DomMode.ofName? mode).map fun m => ⟨m, (Spec.ofValue spec).patterns⟩

/-- Reads the checks of one selector, which are given as an object. -/
def ofChecks? (selector : String) : Json.Value → Option DomRule
  | .object modes =>
    some ⟨selector, (Json.Value.table modes).toList.filterMap fun (m, spec) => check? m spec⟩
  | _ => none

/-- Reads the rules of a technology. -/
def ofValue : Json.Value → List DomRule
  | .string selector => [presence selector]
  | .array items => items.filterMap fun v => v.string?.map presence
  | .object selectors =>
    (Json.Value.table selectors).toList.filterMap fun (s, modes) => ofChecks? s modes
  | _ => []

/-- Reads the rules of a technology that may have none. -/
def ofOptional (v : Option Json.Value) : List DomRule :=
  match v with
  | some v => ofValue v
  | none => []

end DomRule

end SiteTech
