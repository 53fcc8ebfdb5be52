import SiteTech.Json.Reader
import SiteTech.Signature.Spec

namespace SiteTech

/-- The channels of evidence on which technologies are recognised by signatures, and the two tables
of technologies that one rules out or brings along. -/
inductive Channel where
  | url
  | html
  | scripts
  | cookies
  | headers
  | metas
  | js
  | dns
  | excludes
  | implies
deriving DecidableEq, Repr

/-- One thing for each channel. -/
structure Channels (α : Type) where
  url : α
  html : α
  scripts : α
  cookies : α
  headers : α
  metas : α
  js : α
  dns : α
  excludes : α
  implies : α

namespace Channels

/-- What a channel has. -/
def get {α : Type} (c : Channels α) : Channel → α
  | .url => c.url
  | .html => c.html
  | .scripts => c.scripts
  | .cookies => c.cookies
  | .headers => c.headers
  | .metas => c.metas
  | .js => c.js
  | .dns => c.dns
  | .excludes => c.excludes
  | .implies => c.implies

/-- Applies a function to what each channel has. -/
def map {α β : Type} (f : α → β) (c : Channels α) : Channels β :=
  ⟨f c.url, f c.html, f c.scripts, f c.cookies, f c.headers, f c.metas, f c.js, f c.dns,
    f c.excludes, f c.implies⟩

end Channels

/-- A category as it is written. -/
structure CategoryRule where
  name : String
  priority : Int
deriving DecidableEq

/-- A technology as it is written. -/
structure TechRule where
  cats : List UInt32
  website : Option String
  icon : Option String
  cpe : Option String
  channels : Channels (Option Spec)
  dom : Option Json.Value
  certIssuer : Option String

/-- A rule library as it is written. -/
structure RuleLibrary where
  categories : Table String CategoryRule
  technologies : Table String TechRule

open Json (Raw Value)

/-- A field of a record, if it is there. -/
def fieldOf (fields : List (String × Raw)) (name : String) : Option Raw :=
  (fields.find? (·.1 == name)).map (·.2)

/-- Reads a field that may be missing, which then has a default. -/
def readField {α : Type} (fields : List (String × Raw)) (name : String) (default : α)
    (read : Raw → Option α) : Option α :=
  match fieldOf fields name with
  | none => some default
  | some r => read r

/-- Reads something that may be null. -/
def readNullable {α : Type} (read : Raw → Option α) : Raw → Option (Option α)
  | .null => some none
  | r => (read r).map some

/-- Reads an unsigned number of 32 bits. -/
def readWord32 (r : Raw) : Option UInt32 :=
  (r.wholeIn? 0 (UInt32.size - 1)).map fun n => UInt32.ofNat n.toNat

/-- Reads a signed number of 32 bits. -/
def readSigned32 (r : Raw) : Option Int :=
  r.wholeIn? Int32.minValue.toInt Int32.maxValue.toInt

/-- How deep a value may be nested that stands in a technology of a library. -/
def fieldDepth : Nat := Raw.maxDepth - 3

/-- Reads the description of a channel. -/
def readSpec (r : Raw) : Option Spec := (r.value? fieldDepth).map Spec.ofValue

namespace CategoryRule

/-- The fields of a category. -/
def fieldNames : List String := ["name", "priority"]

/-- Reads a category. -/
def ofRaw? (r : Raw) : Option CategoryRule := do
  let fields ← r.fields? fieldNames
  let name ← readField fields "name" "" Raw.string?
  let priority ← readField fields "priority" 0 readSigned32
  return ⟨name, priority⟩

end CategoryRule

namespace TechRule

/-- The fields of a technology. -/
def fieldNames : List String :=
  ["cats", "website", "icon", "cpe", "url", "html", "scripts", "cookies", "headers", "meta", "dom",
    "js", "dns", "certIssuer", "excludes", "implies"]

/-- Reads a list of numbers of categories. -/
def readCats (r : Raw) : Option (List UInt32) := r.items?.bind fun items => items.mapM readWord32

/-- Reads a technology. -/
def ofRaw? (r : Raw) : Option TechRule := do
  let fields ← r.fields? fieldNames
  let text (name : String) : Option (Option String) :=
    readField fields name none (readNullable Raw.string?)
  let spec (name : String) : Option (Option Spec) :=
    readField fields name none (readNullable readSpec)
  let cats ← readField fields "cats" [] readCats
  let website ← text "website"
  let icon ← text "icon"
  let cpe ← text "cpe"
  let url ← spec "url"
  let html ← spec "html"
  let scripts ← spec "scripts"
  let cookies ← spec "cookies"
  let headers ← spec "headers"
  let metas ← spec "meta"
  let dom ← readField fields "dom" none (readNullable (Raw.value? fieldDepth))
  let js ← spec "js"
  let dns ← spec "dns"
  let certIssuer ← text "certIssuer"
  let excludes ← spec "excludes"
  let implies ← spec "implies"
  return ⟨cats, website, icon, cpe,
    ⟨url, html, scripts, cookies, headers, metas, js, dns, excludes, implies⟩, dom, certIssuer⟩

end TechRule

namespace RuleLibrary

/-- The fields of a library. -/
def fieldNames : List String := ["categories", "technologies"]

/-- Reads a map; of entries with the same key the last one counts. -/
def readMap {α : Type} (read : Raw → Option α) (r : Raw) : Option (Table String α) := do
  let entries ← r.entries?
  let values ← entries.mapM fun (k, v) => (read v).map (k, ·)
  return Table.ofList values

/-- Reads a library. -/
def ofRaw? (r : Raw) : Option RuleLibrary := do
  let fields ← r.fields? fieldNames
  let categories ← readField fields "categories" Table.empty (readMap CategoryRule.ofRaw?)
  let technologies ← readField fields "technologies" Table.empty (readMap TechRule.ofRaw?)
  return ⟨categories, technologies⟩

/-- Reads a library from its bytes. -/
def ofBytes? (bytes : List UInt8) : Option RuleLibrary := (Raw.ofBytes? bytes).bind ofRaw?

/-- An order in which the categories of a library may be enumerated. They are held by their keys and come
out in any order. -/
def Enumerates (library : RuleLibrary) (order : List (String × CategoryRule)) : Prop :=
  order.Perm library.categories.toList

/-- The categories of a library in the order of their keys. -/
def byKey (library : RuleLibrary) : List (String × CategoryRule) := library.categories.toList

end RuleLibrary

end SiteTech
