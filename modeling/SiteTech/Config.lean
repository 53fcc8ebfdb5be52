import SiteTech.Error
import SiteTech.Text.Case

namespace SiteTech

/-- The settings of an analysis. Only the first page is analysed if `maxDepth` is zero; `delay` is the
number of milliseconds between two pages. -/
structure Config where
  rulesPath : String
  timeoutSeconds : UInt64
  loadTimeoutSeconds : UInt64
  maxDepth : UInt32
  maxPages : UInt32
  delay : UInt64
  backend : String
  userAgent : String
  resolvesDns : Bool
deriving DecidableEq, Repr, Inhabited

namespace Config

/-- The name under which pages are asked for, unless another is set. -/
def defaultUserAgent : String :=
  "Mozilla/5.0 (Windows NT 10.0; Win64; x64) AppleWebKit/537.36 (KHTML, like Gecko) " ++
    "Chrome/124.0.0.0 Safari/537.36"

/-- The settings that hold unless others are made. -/
def default : Config :=
  { rulesPath := "technologies.json"
    timeoutSeconds := 3
    loadTimeoutSeconds := 3
    maxDepth := 0
    maxPages := 10
    delay := 100
    backend := "http"
    userAgent := defaultUserAgent
    resolvesDns := true }

/-- The number of milliseconds after which a request is given up. -/
def timeout (c : Config) : Nat := c.timeoutSeconds.toNat * 1000

/-- The number of milliseconds after which the loading of a page is given up. -/
def loadTimeout (c : Config) : Nat := c.loadTimeoutSeconds.toNat * 1000

end Config

/-- The ways in which pages can be fetched. -/
inductive Backend where
  | http
deriving DecidableEq, Repr

/-- Reads the name of a way to fetch pages. Case and blanks around it do not count. -/
def Backend.ofName (name : String) : Except Error Backend :=
  let name := Text.lower (Text.trim name)
  if name = "http" then .ok .http else .error (.unknownBackend name)

end SiteTech
