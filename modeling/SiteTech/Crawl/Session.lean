import SiteTech.Config
import SiteTech.Crawl.Address
import SiteTech.Crawl.Link
import SiteTech.Detection.Page

namespace SiteTech

/-- What happens in an analysis, in the order in which it happens. -/
inductive CrawlEvent where
  | depth (depth : UInt32)
  | visit (page : PageStatus)
  | pause
deriving DecidableEq, Repr

/-- An analysis of a site: its settings, the technologies it looks for, what it leaves to chance, the way
to its pages, and how to wait between two of them. -/
structure Analyzer (m : Type → Type) where
  config : Config
  catalog : Catalog
  schedule : Schedule
  fetcher : Fetcher m
  pause : m Unit

/-- The state of an analysis. `known` holds the addresses that have been visited or are waiting. -/
structure Session where
  known : List String
  count : UInt32
  succeeded : Bool
  exhausted : Bool
  detections : DetectionStore
  events : List CrawlEvent

/-- The status of a page that could not be visited. -/
def failedStatus : UInt16 := 400

namespace Session

/-- The state before the first page. -/
def start (url : String) : Session := ⟨[url], 0, false, false, DetectionStore.empty, []⟩

/-- Records an event. -/
def record (s : Session) (e : CrawlEvent) : Session := { s with events := s.events ++ [e] }

/-- The pages visited, in order. -/
def visits (s : Session) : List PageStatus :=
  s.events.filterMap fun e =>
    match e with
    | .visit page => some page
    | _ => none

/-- Takes in links: the ones that are not known yet are the addresses of the next level. -/
def enqueue (s : Session) : List String → Session × List String
  | [] => (s, [])
  | link :: rest =>
    if s.known.contains link then s.enqueue rest
    else
      let (s, next) := enqueue { s with known := link :: s.known } rest
      (s, link :: next)

/-- The result of an analysis. It has one unless all pages failed. -/
def outcome (s : Session) : Except Error Report :=
  if s.succeeded then .ok ⟨s.visits, s.detections.findings⟩ else .error .allPagesFailed

end Session

/-- The links that a page leads on to: those in its text and, if it was found at another address on
the same site, that address. -/
def Evidence.linksFrom (e : Evidence) (url : String) : List String :=
  match Url.ofText url with
  | .error _ => []
  | .ok page =>
    let links := Link.ofPage e.html page
    let final := Address.normalize e.page.url
    if final = Address.normalize url then links
    else links ++ (Link.resolve final page).toList

namespace Analyzer

variable {m : Type → Type} [Monad m]

/-- Visits a page, and gives its links. A page that is no web address is not asked for. -/
def visitPage (a : Analyzer m) (s : Session) (url : String) : m (Session × List String) := do
  let failed := s.record (.visit ⟨url, failedStatus⟩)
  if Address.isValid url then
    match ← a.fetcher.scrape url with
    | .error _ => return (failed, [])
    | .ok e =>
      let visited := s.record (.visit ⟨url, e.page.status⟩)
      return ({ visited with
        succeeded := true
        detections := a.catalog.detect a.schedule.traversal (a.schedule.arrangement url)
          a.fetcher.probe url e s.detections }, e.linksFrom url)
  else return (failed, [])

/-- Visits the pages of a level, and gives the links on them, each once. -/
def crawlLevel (a : Analyzer m) : List String → Session → List String → m (Session × List String)
  | [], s, found => return (s, found)
  | url :: rest, s, found => do
    let (s, links) ← a.visitPage s url
    let found := links.foldl Link.addNew found
    let s := { s with count := s.count + 1 }
    if a.config.maxPages ≤ s.count then return ({ s with exhausted := true }, found)
    else
      a.pause
      a.crawlLevel rest (s.record .pause) found

/-- Visits a level and at most `deeper` levels below it. -/
def crawlFrom (a : Analyzer m) (deeper : Nat) (depth : UInt32) (level : List String)
    (s : Session) : m Session := do
  a.fetcher.announceDepth depth
  let (s, links) ← a.crawlLevel level (s.record (.depth depth)) []
  match deeper with
  | 0 => return s
  | deeper + 1 =>
    if s.exhausted then return s
    else
      let (s, next) := s.enqueue links
      if next.isEmpty then return s else a.crawlFrom deeper (depth + 1) next s

/-- Analyses a site from a page on. -/
def run (a : Analyzer m) (url : String) : m Session :=
  let start := Address.normalize url
  a.crawlFrom a.config.maxDepth.toNat 0 [start] (Session.start start)

/-- The report on a site. -/
def analyze (a : Analyzer m) (url : String) : m (Except Error Report) := do
  return (← a.run url).outcome

end Analyzer

end SiteTech
