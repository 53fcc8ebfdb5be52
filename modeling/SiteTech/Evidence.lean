import SiteTech.Html.TagEvidence
import SiteTech.Report

namespace SiteTech

/-- The evidence of a page: its final address and status, its text, the fields of the answer, and
what has been found out about its scripts, its host and its certificate. -/
structure Evidence where
  page : PageStatus
  html : String
  headers : Table String (List String)
  cookies : Table String String
  scripts : List String
  metas : Table String (List String)
  dns : Table String (List String)
  certIssuers : List String
deriving Inhabited

namespace Evidence

/-- The evidence of a page of which only address and text are known. -/
def ofPage (url html : String) : Evidence :=
  let tags := Html.TagEvidence.ofPage html
  { page := ⟨url, 200⟩
    html := html
    headers := Table.empty
    cookies := Table.empty
    scripts := tags.scripts
    metas := tags.metas
    dns := Table.empty
    certIssuers := [] }

/-- Puts a value to the values of a key. -/
def addValue (t : Table String (List String)) (key value : String) : Table String (List String) :=
  t.alter key fun old => old.getD [] ++ [value]

/-- Adds a field of the answer. Names of fields are in lower case. -/
def withHeader (e : Evidence) (name value : String) : Evidence :=
  { e with headers := addValue e.headers (Text.lower name) value }

/-- Sets a cookie. Names of cookies are in lower case. -/
def withCookie (e : Evidence) (name value : String) : Evidence :=
  { e with cookies := e.cookies.insert (Text.lower name) value }

/-- Adds a record of the host. Types of records are in upper case. -/
def withDns (e : Evidence) (type value : String) : Evidence :=
  { e with dns := addValue e.dns (Text.upper type) value }

/-- Adds an issuer of the certificate. -/
def withCertIssuer (e : Evidence) (issuer : String) : Evidence :=
  { e with certIssuers := e.certIssuers ++ [issuer] }

/-- Sets the address at which the page was found in the end. -/
def withFinalUrl (e : Evidence) (url : String) : Evidence :=
  { e with page := { e.page with url := url } }

end Evidence

end SiteTech
