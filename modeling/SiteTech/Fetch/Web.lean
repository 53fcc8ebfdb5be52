import SiteTech.Certificate.Issuer
import SiteTech.Config
import SiteTech.Fetch.Fetcher
import SiteTech.Http.Network
import SiteTech.Robots.Decision

namespace SiteTech

/-- A way to fetch pages over a network. -/
structure WebFetcher (m : Type → Type) where
  config : Config
  network : Http.Network m

/-- What is known while fetching: whether fetching has been set up, the files for robots by origin,
with none for those that are not to be had, the last depth announced, and all requests that have
reached a server. -/
structure WebState where
  ready : Bool
  robots : Table String (Option String)
  depth : UInt32
  requests : List Http.Request

/-- The state before fetching has been set up. -/
def WebState.start : WebState := ⟨false, Table.empty, 0, []⟩

namespace WebFetcher

variable {m : Type → Type} [Monad m]

/-- Sets fetching up. The name under which pages are asked for has to be one that can be sent. -/
def init (f : WebFetcher m) : StateT WebState m (Except Error Unit) := do
  if (← get).ready || Http.isUserAgent f.config.userAgent then
    modify fun s => { s with ready := true }
    return .ok ()
  else return .error (.fetcherInit "HTTP客户端创建失败：builder error")

/-- Asks for an address, and records the requests. -/
def request (f : WebFetcher m) (url : Url) :
    StateT WebState m (Except Http.RequestFault Http.Answer) := do
  let (result, requests) ← f.network.get f.config.userAgent url
  modify fun s => { s with requests := s.requests ++ requests }
  return result

/-- The text of an address, if it can be had. -/
def fetchText (f : WebFetcher m) (address : String) : StateT WebState m (Option String) := do
  match Url.ofText address with
  | .error _ => return none
  | .ok url =>
    match ← f.request url with
    | .error _ => return none
    | .ok answer =>
      if Http.isSuccess answer.message.status then return answer.message.text.toOption
      else return none

/-- The file for robots of an origin. It is asked for only once, also if it is not to be had. -/
def robotsText (f : WebFetcher m) (origin : String) : StateT WebState m (Option String) := do
  match (← get).robots.get? origin with
  | some known => return known
  | none =>
    let text ← f.fetchText (origin ++ "/robots.txt")
    modify fun s => { s with robots := s.robots.insert origin text }
    return text

/-- Whether the file for robots lets us fetch an address. Without a file everything is allowed. -/
def isAllowed (f : WebFetcher m) (url : Url) : StateT WebState m Bool := do
  match ← f.robotsText (String.ofList url.origin) with
  | none => return true
  | some body => return Robots.allows body f.config.userAgent url.text

/-- The records of the host of an address, if they are wanted. -/
def records (f : WebFetcher m) (url : Url) : StateT WebState m (Table String (List String)) :=
  match url.lookupDomain with
  | some domain => if f.config.resolvesDns then f.network.records domain else return Table.empty
  | none => return Table.empty

/-- The evidence of an answer with its text. -/
def evidence (f : WebFetcher m) (answer : Http.Answer) (html : String) :
    StateT WebState m Evidence := do
  let fields := answer.message.fields
  let dns ← f.records answer.url
  let e := Evidence.ofPage answer.url.text html
  return { e with
    page := ⟨answer.url.text, answer.message.status⟩
    headers := Http.headerTable fields
    cookies := Http.cookieTable fields
    dns := dns
    certIssuers := (answer.message.certificate.map Certificate.issuerOrganizations).getD [] }

/-- What becomes of the answer to a request for a page. -/
def readAnswer (f : WebFetcher m) (address : String) (answer : Http.Answer) :
    StateT WebState m (Except Error Evidence) := do
  let status := answer.message.status
  if Http.isSuccess status then
    match answer.message.text with
    | .ok html => return .ok (← f.evidence answer html)
    | .error .unfinished =>
      if answer.message.stalls then return .error (.fetch (.loadTimeout address))
      else return .error .http
    | .error .malformed => return .error .http
  else return .error (.fetch (.badStatus address (Http.statusText status)))

/-- Fetches a page. -/
def scrape (f : WebFetcher m) (address : String) : StateT WebState m (Except Error Evidence) := do
  if !(← get).ready then return .error (.fetch .notInitialised)
  else
    match Url.ofText address with
    | .error fault => return .error (.invalidUrl (address ++ "：" ++ fault.message))
    | .ok url =>
      let allowed ← if 0 < (← get).depth then f.isAllowed url else pure true
      if allowed then
        match ← f.request url with
        | .error .failed => return .error .http
        | .error .timedOut => return .error (.fetch (.requestTimeout address))
        | .ok answer => f.readAnswer address answer
      else return .error (.fetch (.forbiddenByRobots address))

/-- Fetching over a network. Expressions cannot be evaluated. -/
def fetcher (f : WebFetcher m) : Fetcher (StateT WebState m) :=
  { canRender := false
    evaluate := fun expression => .error (.eval (.unsupported expression))
    announceDepth := fun depth => modify fun s => { s with depth := depth }
    scrape := f.scrape }

end WebFetcher

end SiteTech
