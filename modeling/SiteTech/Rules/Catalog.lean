import SiteTech.Error
import SiteTech.Rules.Dom
import SiteTech.Rules.Library
import SiteTech.Text.Slug

namespace SiteTech

/-- A category of technologies. -/
structure Category where
  id : UInt32
  slug : String
  name : String
  priority : Int
deriving DecidableEq, Repr, Inhabited

/-- A technology with everything by which it is recognised. -/
structure Technology where
  name : String
  slug : String
  categories : List Category
  icon : String
  website : String
  cpe : String
  channels : Channels PatternTable
  dom : List DomRule
  certIssuer : Option String

/-- Technologies by name and categories by number. -/
structure Catalog where
  technologies : Table String Technology
  categories : Table UInt32 Category

/-- The category that a rule gives under a number. -/
def CategoryRule.category (rule : CategoryRule) (id : UInt32) : Category :=
  ⟨id, Text.slug rule.name, rule.name, rule.priority⟩

namespace Technology

/-- The categories that a technology refers to. -/
def findCategories (name : String) (categories : Table UInt32 Category) :
    List UInt32 → Except RuleFault (List Category)
  | [] => .ok []
  | id :: rest =>
    match categories.get? id with
    | none => .error (.unknownCategory name id)
    | some c => (findCategories name categories rest).map (c :: ·)

/-- The technology of a rule. -/
def ofRule (categories : Table UInt32 Category) (name : String) (rule : TechRule) :
    Except RuleFault Technology :=
  (findCategories name categories rule.cats).map fun cats =>
    { name := name
      slug := Text.slug name
      categories := cats
      icon := rule.icon.getD ""
      website := rule.website.getD ""
      cpe := rule.cpe.getD ""
      channels := rule.channels.map Spec.patternsOf
      dom := DomRule.ofOptional rule.dom
      certIssuer := rule.certIssuer.filter fun s => !s.isEmpty }

end Technology

namespace Catalog

/-- The categories of entries that come in some order. Entries whose key is no number are passed over, and
of those whose keys read as one number the last one is kept. -/
def categoriesIn (order : List (String × CategoryRule)) : Table UInt32 Category :=
  Table.ofList (order.filterMap fun e =>
    (Text.readUInt32 e.1.toList).map fun id => (id, e.2.category id))

/-- The technologies of a list of rules. -/
def technologiesOf (categories : Table UInt32 Category) :
    List (String × TechRule) → Except RuleFault (List (String × Technology))
  | [] => .ok []
  | (name, rule) :: rest =>
    match Technology.ofRule categories name rule with
    | .error e => .error e
    | .ok t => (technologiesOf categories rest).map ((name, t) :: ·)

/-- The catalog of a library whose categories are enumerated in a given order. It needs a category and a
technology, and every category that a technology refers to. -/
def ofLibraryIn (order : List (String × CategoryRule)) (library : RuleLibrary) :
    Except RuleFault Catalog :=
  let categories := categoriesIn order
  if categories.isEmpty then .error .noCategory
  else
    match technologiesOf categories library.technologies.toList with
    | .error e => .error e
    | .ok technologies =>
      if technologies.isEmpty then .error .noTechnology
      else .ok ⟨Table.ofList technologies, categories⟩

/-- The catalog of a library whose categories are enumerated in the order of their keys. -/
def ofLibrary (library : RuleLibrary) : Except RuleFault Catalog :=
  ofLibraryIn library.byKey library

/-- The catalog of the bytes of a rule library, which enumerates its categories as `order` says. -/
def ofBytes (order : RuleLibrary → List (String × CategoryRule)) (bytes : List UInt8) :
    Except RuleFault Catalog :=
  match RuleLibrary.ofBytes? bytes with
  | none => .error .notDecodable
  | some library => ofLibraryIn (order library) library

/-- The catalog of a file; `content` is what reading the file gave. -/
def ofFile (order : RuleLibrary → List (String × CategoryRule)) (path : String)
    (content : Except FileFault (List UInt8)) : Except RuleFault Catalog :=
  match content with
  | .error fault => .error (.unreadable path fault)
  | .ok bytes => ofBytes order bytes

/-- The technology of a name. -/
def get? (c : Catalog) (name : String) : Option Technology := c.technologies.get? name

/-- The number of technologies. -/
def size (c : Catalog) : Nat := c.technologies.size

/-- Whether there is no technology. -/
def isEmpty (c : Catalog) : Bool := c.technologies.isEmpty

end Catalog

end SiteTech
