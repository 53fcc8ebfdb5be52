import SiteTech.Crawl.Session
import SiteTech.Fetch.Web

namespace SiteTech.Analyzer

variable {m : Type → Type} [Monad m]

/-- Sets an analysis up from its settings: first the way to fetch pages, then the rule library, whose
file is read as `read` says and whose categories come in a given order. -/
def setUp (config : Config) (order : RuleLibrary → List (String × CategoryRule)) (schedule : Schedule)
    (network : Http.Network m) (read : m (Except FileFault (List UInt8))) (pause : m Unit) :
    StateT WebState m (Except Error (Analyzer (StateT WebState m))) := do
  match Backend.ofName config.backend with
  | .error e => return .error e
  | .ok .http =>
    let web : WebFetcher m := ⟨config, network⟩
    match ← web.init with
    | .error e => return .error e
    | .ok () =>
      match Catalog.ofFile order config.rulesPath (← read) with
      | .error fault => return .error (.rules fault)
      | .ok catalog => return .ok ⟨config, catalog, schedule, web.fetcher, pause⟩

end SiteTech.Analyzer
