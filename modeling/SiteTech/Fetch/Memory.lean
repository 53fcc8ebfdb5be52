import SiteTech.Fetch.Fetcher

namespace SiteTech

/-- Pages by address, or the reasons why they cannot be fetched, and the values of expressions. -/
structure MemorySite where
  pages : Table String (Except String Evidence)
  values : Table String Json.Value
  canRender : Bool

/-- What has been asked: the addresses, in order, and the last depth announced. -/
structure MemoryLog where
  requests : List String
  depth : UInt32
deriving DecidableEq, Repr, Inhabited

namespace MemorySite

/-- A site without pages. -/
def empty : MemorySite := ⟨Table.empty, Table.empty, false⟩

/-- The key of an address: slashes at its end do not count. -/
def key (url : String) : String := String.ofList (Text.dropTrailingSlashes url.toList)

/-- The site with a page. -/
def withPage (s : MemorySite) (url : String) (e : Evidence) : MemorySite :=
  { s with pages := s.pages.insert (key url) (.ok e) }

/-- The site with a page of which only the text is known. -/
def withHtml (s : MemorySite) (url html : String) : MemorySite :=
  s.withPage url (Evidence.ofPage url html)

/-- The site with a page that cannot be fetched. -/
def withFailure (s : MemorySite) (url reason : String) : MemorySite :=
  { s with pages := s.pages.insert (key url) (.error reason) }

/-- The site with the value of an expression. -/
def withValue (s : MemorySite) (expression : String) (value : Json.Value) : MemorySite :=
  { s with values := s.values.insert expression value }

/-- The page at an address. -/
def page (s : MemorySite) (url : String) : Except Error Evidence :=
  match s.pages.get? (key url) with
  | some (.ok e) => .ok e
  | some (.error reason) => .error (.fetch (.stated reason))
  | none => .error (.fetch (.noSuchPage url))

/-- The value of an expression. -/
def evaluate (s : MemorySite) (expression : String) : Except Error (Option Json.Value) :=
  if s.canRender then .ok (s.values.get? expression)
  else .error (.eval (.renderingOff expression))

/-- Fetching from memory. -/
def fetcher (s : MemorySite) : Fetcher (StateM MemoryLog) :=
  { canRender := s.canRender
    evaluate := s.evaluate
    announceDepth := fun depth => modify fun log => { log with depth := depth }
    scrape := fun url => do
      modify fun log => { log with requests := log.requests ++ [url] }
      return s.page url }

end MemorySite

end SiteTech
