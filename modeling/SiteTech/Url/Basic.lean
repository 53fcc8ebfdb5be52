import SiteTech.Url.Host

namespace SiteTech

namespace Url

/-- The path of an address: text without structure, or segments, each with a slash before it. -/
inductive Path where
  | unstructured (text : List Char)
  | segments (l : List (List Char))
deriving DecidableEq, Repr

/-- The text of a path. -/
def Path.text : Path → List Char
  | .unstructured t => t
  | .segments l => l.flatMap ('/' :: ·)

end Url

/-- An address of a resource. `authority` tells that two slashes come after the scheme, though
there may be no host. The port is missing when it is the usual one of the scheme. -/
structure Url where
  scheme : List Char
  authority : Bool
  username : List Char
  password : Option (List Char)
  host : Option Url.Host
  port : Option Nat
  path : Url.Path
  query : Option (List Char)
  fragment : Option (List Char)
deriving DecidableEq, Repr

namespace Url

/-- The usual port of a scheme. -/
def defaultPort (scheme : List Char) : Option Nat :=
  if scheme = "http".toList ∨ scheme = "ws".toList then some 80
  else if scheme = "https".toList ∨ scheme = "wss".toList then some 443
  else if scheme = "ftp".toList then some 21
  else none

/-- Whether a scheme addresses files. -/
def isFileScheme (scheme : List Char) : Bool := scheme == "file".toList

/-- Whether a scheme has rules of its own for hosts and paths. -/
def isSpecial (scheme : List Char) : Bool := (defaultPort scheme).isSome || isFileScheme scheme

/-- Whether the scheme is one of the two of web pages. -/
def isWeb (u : Url) : Bool := u.scheme == "http".toList || u.scheme == "https".toList

/-- The text of the host, if there is one. -/
def hostText (u : Url) : Option (List Char) := u.host.map Host.text

/-- The host with its port, as they are written. -/
def hostAndPort (u : Url) : List Char :=
  (u.hostText.getD []) ++ (match u.port with
    | some p => ':' :: Text.decimal p
    | none => [])

/-- User name and password as they are written before a host. -/
def userInfo (u : Url) : List Char :=
  match u.password with
  | none => if u.username.isEmpty then [] else u.username ++ ['@']
  | some p => u.username ++ ':' :: p ++ ['@']

/-- Everything before the path. -/
def origin (u : Url) : List Char :=
  u.scheme ++ ':' :: (if u.authority then '/' :: '/' :: u.userInfo ++ u.hostAndPort else [])

/-- What keeps a path that starts with an empty segment from being read as a host. -/
def pathGuard (u : Url) : List Char :=
  match u.path with
  | .segments ([] :: _ :: _) => if u.authority then [] else ['/', '.']
  | _ => []

/-- The path with query and fragment. -/
def afterOrigin (u : Url) : List Char :=
  u.pathGuard ++ u.path.text ++
    (match u.query with
      | some q => '?' :: q
      | none => []) ++
    (match u.fragment with
      | some f => '#' :: f
      | none => [])

/-- The text of an address, as characters. -/
def chars (u : Url) : List Char := u.origin ++ u.afterOrigin

/-- The text of an address. -/
def text (u : Url) : String := String.ofList u.chars

/-- The domain name of the host, if it has one. -/
def domain? (u : Url) : Option (List Char) :=
  match u.host with
  | some (.domain name) => some name
  | _ => none

/-- The last two labels of the domain name, under which its records are looked up. -/
def lookupDomain (u : Url) : Option String :=
  match u.domain? with
  | none => none
  | some name =>
    let labels := Text.splitOn '.' (Text.dropEndWhile (· == '.') name)
    if labels.length < 2 then none
    else some (String.ofList (Text.join ['.'] (labels.drop (labels.length - 2))))

end Url

end SiteTech
