import SiteTech.Proofs.Crawl.Outcome
import SiteTech.Proofs.Detection.Arrangement
import SiteTech.Proofs.Detection.Growth

namespace SiteTech

namespace MemorySite

section

variable (site : MemorySite) {catalog : Catalog} (hnone : catalog.ExcludesNothing) {o : Traversal}
  (ho : o.Complete) (first second : String → Arrangement) (urls more : List String)

include hnone

end

end MemorySite

end SiteTech
