import SiteTech.Evidence

namespace SiteTech

/-- A way to fetch pages. `canRender` says whether expressions can be evaluated in a page; the depth
of the pages that follow is announced before they are fetched. -/
structure Fetcher (m : Type → Type) where
  canRender : Bool
  evaluate : String → Except Error (Option Json.Value)
  announceDepth : UInt32 → m Unit
  scrape : String → m (Except Error Evidence)

end SiteTech
