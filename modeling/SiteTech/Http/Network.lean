import SiteTech.Http.Message
import SiteTech.Table

namespace SiteTech.Http

/-- What becomes of a request: no connection is made, the connection is closed without an answer,
nothing comes, or an answer does. -/
inductive Delivery where
  | refused
  | dropped
  | silent
  | answered (message : Message)
deriving Repr, Inhabited

/-- A request for an address. -/
structure Request where
  url : Url
  userAgent : String
deriving DecidableEq, Repr

/-- A network: what becomes of a request, and the records of a domain. -/
structure Network (m : Type → Type) where
  deliver : Request → m Delivery
  records : String → m (Table String (List String))

/-- Why a request has no answer. -/
inductive RequestFault where
  | failed
  | timedOut
deriving DecidableEq, Repr

/-- An answer, and the address at which it was found in the end. -/
structure Answer where
  url : Url
  message : Message
deriving Repr

/-- The greatest number of times that a request is sent on. -/
def maxHops : Nat := 10

/-- An address as it is asked for: without names of users and without a fragment. -/
def bare (u : Url) : Url := { u with username := [], password := none, fragment := none }

/-- The result of a request and the requests that reached a server on the way. -/
abbrev Outcome := Except RequestFault Answer × List Request

namespace Network

variable {m : Type → Type} [Monad m]

/-- Asks for an address, and for those that answers send on to, at most `hops` of them. `shown` is
the address that counts as the one where the answer was found. -/
def follow (n : Network m) (userAgent : String) : Nat → Url → m Outcome
  | hops, shown => do
    let asked := bare shown
    if !asked.isWeb then return (.error .failed, [])
    else
      let request : Request := ⟨asked, userAgent⟩
      match ← n.deliver request with
      | .refused => return (.error .failed, [])
      | .dropped => return (.error .failed, [request])
      | .silent => return (.error .timedOut, [request])
      | .answered message =>
        if !message.isReadable then return (.error .failed, [request])
        else
          match message.target? asked with
          | none => return (.ok ⟨{ shown with username := [], password := none }, message⟩, [request])
          | some target =>
            match hops with
            | 0 => return (.error .failed, [request])
            | hops + 1 => do
              let (result, requests) ← n.follow userAgent hops target
              return (result, request :: requests)

/-- Asks for an address. -/
def get (n : Network m) (userAgent : String) (url : Url) : m Outcome := n.follow userAgent maxHops url

end Network

/-- Whether a text may be sent as the name of an agent. -/
def isUserAgent (text : String) : Bool := (Text.encode text).all isValueByte

/-- The text of a request. -/
def Request.text (r : Request) : List UInt8 :=
  let query := match r.url.query with
    | some q => '?' :: q
    | none => []
  let path := match r.url.path.text with
    | [] => ['/']
    | path => path
  Text.encode <|
    "GET " ++ String.ofList (path ++ query) ++ " HTTP/1.1\r\nuser-agent: " ++ r.userAgent ++
      "\r\naccept: */*\r\naccept-encoding: gzip\r\nhost: " ++ String.ofList r.url.hostAndPort ++
      "\r\nconnection: close\r\n\r\n"

end SiteTech.Http
