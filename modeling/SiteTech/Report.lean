import SiteTech.Json.Writer
import SiteTech.Rules.Catalog

namespace SiteTech

/-- A page that was visited and the status of the answer. -/
structure PageStatus where
  url : String
  status : UInt16
deriving DecidableEq, Repr, Inhabited

/-- A technology that was found. -/
structure Finding where
  slug : String
  name : String
  confidence : UInt32
  version : String
  icon : String
  website : String
  cpe : String
  categories : List Category
deriving DecidableEq, Repr, Inhabited

/-- The result of an analysis. -/
structure Report where
  urls : List PageStatus
  technologies : List Finding
deriving DecidableEq, Repr, Inhabited

open Json (Raw Value)

/-- The name of a finding with its version, if it has one. -/
def Finding.display (f : Finding) : String :=
  if f.version.isEmpty then f.name else f.name ++ " " ++ f.version

/-- A page as a document. -/
def PageStatus.toValue (p : PageStatus) : Value :=
  .object [("url", .string p.url), ("status", Value.ofNat p.status.toNat)]

/-- A category as a document. Its priority stays inside the catalog. -/
def Category.toValue (c : Category) : Value :=
  .object [("id", Value.ofNat c.id.toNat), ("slug", .string c.slug), ("name", .string c.name)]

/-- A finding as a document. -/
def Finding.toValue (f : Finding) : Value :=
  .object [("slug", .string f.slug), ("name", .string f.name),
    ("confidence", Value.ofNat f.confidence.toNat), ("version", .string f.version),
    ("icon", .string f.icon), ("website", .string f.website), ("cpe", .string f.cpe),
    ("categories", .array (f.categories.map Category.toValue))]

/-- A report as a document. -/
def Report.toValue (r : Report) : Value :=
  .object [("urls", .array (r.urls.map PageStatus.toValue)),
    ("technologies", .array (r.technologies.map Finding.toValue))]

/-- The text of a report in the least space. -/
def Report.compactText (r : Report) : String := r.toValue.compactText

/-- The text of a report with indentation. -/
def Report.prettyText (r : Report) : String := r.toValue.prettyText

/-- The finding of a name. -/
def Report.find? (r : Report) (name : String) : Option Finding :=
  r.technologies.find? fun f => f.name == name

/-- Reads a page. -/
def PageStatus.ofRaw? (r : Raw) : Option PageStatus := do
  let fields ← r.fields? ["url", "status"]
  let url ← (fieldOf fields "url").bind Raw.string?
  let status ← (fieldOf fields "status").bind (Raw.wholeIn? 0 65535)
  return ⟨url, UInt16.ofNat status.toNat⟩

/-- Reads a category. -/
def Category.ofRaw? (r : Raw) : Option Category := do
  let fields ← r.fields? ["id", "slug", "name"]
  let id ← (fieldOf fields "id").bind readWord32
  let slug ← (fieldOf fields "slug").bind Raw.string?
  let name ← (fieldOf fields "name").bind Raw.string?
  return ⟨id, slug, name, 0⟩

/-- Reads a finding. -/
def Finding.ofRaw? (r : Raw) : Option Finding := do
  let fields ← r.fields?
    ["slug", "name", "confidence", "version", "icon", "website", "cpe", "categories"]
  let text (name : String) : Option String := (fieldOf fields name).bind Raw.string?
  let slug ← text "slug"
  let name ← text "name"
  let confidence ← (fieldOf fields "confidence").bind readWord32
  let version ← text "version"
  let icon ← text "icon"
  let website ← text "website"
  let cpe ← text "cpe"
  let items ← (fieldOf fields "categories").bind Raw.items?
  let categories ← items.mapM Category.ofRaw?
  return ⟨slug, name, confidence, version, icon, website, cpe, categories⟩

/-- Reads a report. -/
def Report.ofRaw? (r : Raw) : Option Report := do
  let fields ← r.fields? ["urls", "technologies"]
  let urls ← (fieldOf fields "urls").bind Raw.items?
  let technologies ← (fieldOf fields "technologies").bind Raw.items?
  return ⟨← urls.mapM PageStatus.ofRaw?, ← technologies.mapM Finding.ofRaw?⟩

/-- Reads the text of a report. -/
def Report.ofText? (text : String) : Option Report := (Raw.ofText? text).bind Report.ofRaw?

end SiteTech
