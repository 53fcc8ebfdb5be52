import SiteTech.Html.DocumentReader
import SiteTech.Selector.Search
import SiteTech.Url.Reader

namespace SiteTech.Link

/-- The form in which a page is visited: scheme, host, port and path, without slashes at the end. -/
def canonical (u : Url) : String :=
  String.ofList (u.scheme ++ ':' :: '/' :: '/' :: u.hostAndPort ++
    Text.dropTrailingSlashes u.path.text)

/-- Whether two addresses have the same host and the same port written out. -/
def sameSite (u v : Url) : Bool := u.hostText == v.hostText && u.port == v.port

/-- The page that a link leads to, if it is a web page on the same site. -/
def resolve (link : String) (page : Url) : Option String :=
  let text := Text.trimList link.toList
  if text.isEmpty then none
  else
    match page.join text with
    | .error _ => none
    | .ok target => if target.isWeb && sameSite target page then some (canonical target) else none

/-- The elements that hold the links of a page: anchors in its body that have an address. -/
def anchors : Selector.Alternatives :=
  .cons
    (.link (.single (.cons (.element "body") .nil)) .descendant
      (.cons (.element "a") (.cons (.attribute ⟨"href", false, none⟩) .nil)))
    .nil

/-- Adds a link to a list, unless it is there. -/
def addNew (links : List String) (link : String) : List String :=
  if links.contains link then links else links ++ [link]

/-- The links of a page, each once, in the order of the anchors. -/
def ofPage (html : String) (page : Url) : List String :=
  let document := Html.Document.ofText html
  (((anchors.select document).filterMap document.element?).filterMap fun e =>
    (e.attribute? "href").bind fun href => resolve href page).foldl addNew []

end SiteTech.Link
