import SiteTech.Detection.Channels
import SiteTech.Detection.Implication
import SiteTech.Fetch.Fetcher

namespace SiteTech

/-- What detection can ask of a running page. -/
structure Probe where
  canRender : Bool
  evaluate : String → Except Error (Option Json.Value)

/-- What a way to fetch pages offers to detection. -/
def Fetcher.probe {m : Type → Type} (f : Fetcher m) : Probe := ⟨f.canRender, f.evaluate⟩

/-- The signs of a technology on a page, except those in its elements. -/
def Technology.pageHits (t : Technology) (probe : Probe) (url : String) (e : Evidence) :
    List Hit :=
  t.urlHits url ++ (if probe.canRender then t.jsHits probe.evaluate else []) ++
    t.htmlHits e.html ++ t.headerHits e.headers ++ t.cookieHits e.cookies ++
    t.scriptHits e.scripts ++ t.metaHits e.metas ++ t.dnsHits e.dns ++
    t.certIssuerHits e.certIssuers

/-- An order in which the signs of a page are recorded. The technologies are looked for side by side and
the elements of the page at the same time, so that any order may come about. -/
structure Arrangement where
  arrange : List Hit → List Hit
  perm : ∀ hits, (arrange hits).Perm hits

/-- The order in which signs are listed. -/
def Arrangement.inOrder : Arrangement := ⟨id, fun _ => .refl _⟩

/-- What an analysis leaves to chance: the order in which the signatures of a technology are gone through,
and for each page the order in which its signs are recorded. -/
structure Schedule where
  traversal : Traversal
  complete : traversal.Complete
  arrangement : String → Arrangement

/-- The schedule in which everything comes in the order in which it is listed. -/
def Schedule.inOrder : Schedule := ⟨Traversal.byName, Traversal.complete_byName, fun _ => .inOrder⟩

namespace Catalog

/-- All signs on a page. -/
def hits (c : Catalog) (probe : Probe) (url : String) (e : Evidence) : List Hit :=
  let document := Html.Document.ofText e.html
  c.technologies.values.flatMap (fun t => t.pageHits probe url e) ++
    c.technologies.values.flatMap fun t => t.domHits document

/-- Adds what a page shows to a store. The signs are recorded in a given order, and the signatures of the
technologies found are then gone through in a given order. -/
def detect (c : Catalog) (o : Traversal) (a : Arrangement) (probe : Probe) (url : String)
    (e : Evidence) (store : DetectionStore) : DetectionStore :=
  (store.addAll (a.arrange (c.hits probe url e))).resolveIn o c

/-- The technologies of a single page. -/
def detectPage (c : Catalog) (o : Traversal) (a : Arrangement) (probe : Probe) (url : String)
    (e : Evidence) : List Finding :=
  (c.detect o a probe url e DetectionStore.empty).findings

end Catalog

end SiteTech
