import SiteTech.Url.Basic
import SiteTech.Url.Encode

namespace SiteTech.Url

/-- Whether a character is dropped at the ends of a text. -/
def isEdge (c : Char) : Bool := c.toNat ≤ 0x20

/-- Whether a character is dropped inside a text. -/
def isIgnored (c : Char) : Bool := c == '\t' || c == '\n' || c == '\r'

/-- The characters of a text that count. -/
def significant (s : List Char) : List Char :=
  (Text.dropEndWhile isEdge (s.dropWhile isEdge)).filter (!isIgnored ·)

/-- Whether a character may stand in a scheme. -/
def isSchemeChar (c : Char) : Bool :=
  Text.isAsciiLetter c || Text.isAsciiDigit c || c == '+' || c == '-' || c == '.'

/-- The scheme at the front of a text, in lower case, and what comes after its colon. -/
def readScheme (s : List Char) : Option (List Char × List Char) :=
  match s with
  | c :: _ =>
    if Text.isAsciiLetter c then
      let name := s.takeWhile isSchemeChar
      match s.drop name.length with
      | ':' :: rest => some (Text.asciiLower name, rest)
      | _ => none
    else none
  | [] => none

/-- Whether a character separates segments. -/
def isSlash (special : Bool) (c : Char) : Bool := c == '/' || (special && c == '\\')

/-- The segments of a path, from its first on. -/
def splitSegments (special : Bool) : List Char → List (List Char)
  | [] => [[]]
  | c :: rest =>
    if isSlash special c then [] :: splitSegments special rest
    else Text.consPiece c (splitSegments special rest)

/-- A segment in which encoded dots are dots, and letters are in lower case. -/
def dotted (s : List Char) : List Char :=
  match s with
  | '%' :: '2' :: c :: rest => if c.toLower = 'e' then '.' :: dotted rest else '%' :: dotted ('2' :: c :: rest)
  | c :: rest => c :: dotted rest
  | [] => []
termination_by s.length

/-- Whether a segment goes up. -/
def isDoubleDot (s : List Char) : Bool := s.length ≤ 6 && dotted s == ['.', '.']

/-- Whether a segment stays where it is. -/
def isSingleDot (s : List Char) : Bool := s.length ≤ 3 && dotted s == ['.']

/-- Whether a text is a drive letter. -/
def isDrive (s : List Char) : Bool :=
  match s with
  | [c, d] => Text.isAsciiLetter c && (d == ':' || d == '|')
  | _ => false

/-- Leaves the last segment; in files a drive stays. -/
def goUp (file : Bool) (done : List (List Char)) : List (List Char) :=
  match done with
  | [d] => if file && isDrive d && d.getLast? == some ':' then [d] else []
  | _ :: rest => rest
  | [] => []

/-- Follows segments. The segments so far are in reverse. -/
def follow (file : Bool) (done : List (List Char)) : List (List Char) → List (List Char)
  | [] => done
  | s :: rest =>
    if isDoubleDot s then
      let up := goUp file done
      follow file (if rest.isEmpty then [] :: up else up) rest
    else if isSingleDot s then follow file (if rest.isEmpty then [] :: done else done) rest
    else if file && done.isEmpty && isDrive s then follow file ((s.take 1 ++ [':']) :: done) rest
    else follow file (s :: done) rest

/-- Where the path of a text ends. -/
def isPathEnd (c : Char) : Bool := c == '?' || c == '#'

/-- Splits a text at the end of its path. -/
def splitPath (s : List Char) : List Char × List Char :=
  let path := s.takeWhile (!isPathEnd ·)
  (path, s.drop path.length)

/-- Follows the segments of a text from given ones on. -/
def readSegments (scheme : List Char) (start : List (List Char)) (s : List Char) : List (List Char) :=
  let file := isFileScheme scheme
  let segments := (splitSegments (isSpecial scheme) s).map (percentEncode inPath)
  let done := (follow file start.reverse segments).reverse
  if file then
    match done.dropWhile List.isEmpty with
    | [] => [[]]
    | l => l
  else done

/-- Drops one slash in front. -/
def dropSlash (special : Bool) (s : List Char) : List Char :=
  match s with
  | c :: rest => if isSlash special c then rest else s
  | [] => []

/-- Query and fragment of a text after its path. -/
def readTail (scheme s : List Char) : Option (List Char) × Option (List Char) :=
  let fragment (s : List Char) : Option (List Char) :=
    match s with
    | '#' :: rest => some (percentEncode inFragment rest)
    | _ => none
  match s with
  | '?' :: rest =>
    let query := rest.takeWhile (· != '#')
    (some (percentEncode (inQuery (isSpecial scheme)) query), fragment (rest.drop query.length))
  | s => (none, fragment s)

/-- Where an authority ends. -/
def isAuthorityEnd (special : Bool) (c : Char) : Bool :=
  c == '/' || c == '?' || c == '#' || (special && c == '\\')

/-- Splits at the last at sign, if there is one. -/
def splitUser (s : List Char) : Option (List Char × List Char) :=
  if s.contains '@' then
    let host := (s.reverse.takeWhile (· != '@')).reverse
    some ((s.take (s.length - host.length)).dropLast, host)
  else none

/-- User name and password of the text before an at sign. A password that is empty does not
count. -/
def readUser (s : List Char) : List Char × Option (List Char) :=
  match Text.splitOnce ':' s with
  | none => (percentEncode inUserInfo s, none)
  | some (name, []) => (percentEncode inUserInfo name, none)
  | some (name, password) =>
    (percentEncode inUserInfo name, some (percentEncode inUserInfo password))

/-- Splits a host from what comes after it: a colon outside brackets ends it. -/
def splitHost (inside : Bool) : List Char → List Char × List Char
  | [] => ([], [])
  | c :: rest =>
    if c = ':' ∧ inside = false then ([], c :: rest)
    else
      let (host, rest) := splitHost (if c = '[' then true else if c = ']' then false else inside) rest
      (c :: host, rest)

/-- Reads a port. The usual port of a scheme does not count. -/
def readPort (scheme s : List Char) : Except UrlError (Option Nat) :=
  if s.all Text.isAsciiDigit then
    match Text.readDigits 0 s with
    | none => .error .badPort
    | some n =>
      if 65535 < n then .error .badPort
      else .ok (if s.isEmpty || defaultPort scheme == some n then none else some n)
  else .error .badPort

/-- Whether a character may not stand in a host without rules of its own. -/
def isBadHostChar (c : Char) : Bool :=
  ['\x00', '\t', '\n', '\r', ' ', '#', '/', ':', '<', '>', '?', '@', '[', '\\', ']', '^', '|'].contains c

/-- Reads a host without rules of its own. -/
def readOpaqueHost (s : List Char) : Except UrlError Host :=
  match s with
  | '[' :: rest => readBracketed rest
  | s => if s.any isBadHostChar then .error .badDomainChar else .ok (.domain (percentEncode inControls s))

/-- The authority of a text and what comes after it. -/
structure Authority where
  username : List Char
  password : Option (List Char)
  host : Option Host
  port : Option Nat

/-- A host that is not empty. -/
def Host.nonempty? : Host → Option Host
  | .domain [] => none
  | h => some h

/-- Reads host and port. -/
def readHostAndPort (scheme s : List Char) : Except UrlError (Option Host × Option Nat) := do
  let special := isSpecial scheme
  let (hostText, rest) := splitHost false s
  if special && hostText.isEmpty then throw .emptyHost
  let host ← if special then readHost hostText else readOpaqueHost hostText
  match rest with
  | ':' :: digits =>
    if host = .domain [] then throw .emptyHost
    let port ← readPort scheme digits
    return (host.nonempty?, port)
  | _ => return (host.nonempty?, none)

/-- Reads an authority. -/
def readAuthority (scheme s : List Char) : Except UrlError Authority := do
  match splitUser s with
  | none =>
    let (host, port) ← readHostAndPort scheme s
    return ⟨[], none, host, port⟩
  | some ([], rest) =>
    if rest.isEmpty then
      -- an at sign with nothing around it
      throw .emptyHost
    let (host, port) ← readHostAndPort scheme rest
    return ⟨[], none, host, port⟩
  | some (user, rest) =>
    let (username, password) := readUser user
    let (host, port) ← readHostAndPort scheme rest
    if host.isNone && (!username.isEmpty || password.isSome) then throw .emptyHost
    return ⟨username, password, host, port⟩

/-- Reads what comes after a scheme and two slashes. -/
def readAfterSlashes (scheme s : List Char) : Except UrlError Url := do
  let special := isSpecial scheme
  let authority := s.takeWhile (!isAuthorityEnd special ·)
  let a ← readAuthority scheme authority
  let (path, tail) := splitPath (s.drop authority.length)
  let segments :=
    if path.isEmpty && !special then [] else readSegments scheme [] (dropSlash special path)
  let (query, fragment) := readTail scheme tail
  return ⟨scheme, true, a.username, a.password, a.host, a.port, .segments segments, query, fragment⟩

/-- Reads an address of a scheme without rules of its own, after the colon. -/
def readPlain (scheme s : List Char) : Except UrlError Url :=
  match s with
  | '/' :: '/' :: rest => readAfterSlashes scheme rest
  | _ =>
    let (path, tail) := splitPath s
    let (query, fragment) := readTail scheme tail
    let path :=
      match path with
      | '/' :: rest => Path.segments (readSegments scheme [] rest)
      | _ => Path.unstructured (percentEncode inControls path)
    .ok ⟨scheme, false, [], none, none, none, path, query, fragment⟩

/-- Reads the host of a file; the local one is none. -/
def readFileHost (s : List Char) : Except UrlError (Option Host) :=
  if s.isEmpty then .ok none
  else (readHost s).map fun h => if h = .domain "localhost".toList then none else some h

/-- Reads an address of a file, after the colon. -/
def readFile (s : List Char) : Except UrlError Url := do
  let scheme := "file".toList
  let finish (host : Option Host) (s : List Char) : Url :=
    let (path, tail) := splitPath s
    let segments := readSegments scheme [] (dropSlash true path)
    let (query, fragment) := readTail scheme tail
    let host := match segments with
      | d :: _ => if isDrive d then none else host
      | [] => host
    ⟨scheme, true, [], none, host, none, .segments segments, query, fragment⟩
  match s with
  | a :: b :: rest =>
    if isSlash true a && isSlash true b then
      let hostText := rest.takeWhile (!isAuthorityEnd true ·)
      if isDrive hostText then return finish none rest
      let host ← readFileHost hostText
      return finish host (rest.drop hostText.length)
    else return finish none s
  | s => return finish none s

/-- Reads a text with a scheme, after its colon. -/
def readWithScheme (base : Option Url) (relative : List Char → Except UrlError Url)
    (scheme s : List Char) : Except UrlError Url :=
  if isFileScheme scheme then readFile s
  else if isSpecial scheme then
    let rest := s.dropWhile (isSlash true)
    if s.length - rest.length < 2 && (base.map (·.scheme)) == some scheme then relative s
    else readAfterSlashes scheme rest
  else readPlain scheme s

/-- The segments of a page. -/
def Path.segmentList : Path → List (List Char)
  | .segments l => l
  | .unstructured _ => []

/-- Reads a link without a scheme. -/
def readRelative (base : Url) (s : List Char) : Except UrlError Url :=
  match s with
  | [] => .ok { base with fragment := none }
  | '?' :: _ =>
    let (query, fragment) := readTail base.scheme s
    .ok { base with query := query, fragment := fragment }
  | '#' :: rest => .ok { base with fragment := some (percentEncode inFragment rest) }
  | '/' :: '/' :: rest => readAfterSlashes base.scheme rest
  | c :: rest =>
    if isSlash true c then
      let after := (c :: rest).dropWhile (isSlash true)
      if 2 ≤ (c :: rest).length - after.length then readAfterSlashes base.scheme after
      else
        let (path, tail) := splitPath rest
        let (query, fragment) := readTail base.scheme tail
        .ok { base with
          path := .segments (readSegments base.scheme [] path), query := query, fragment := fragment }
    else
      let (path, tail) := splitPath s
      let (query, fragment) := readTail base.scheme tail
      .ok { base with
        path := .segments (readSegments base.scheme base.path.segmentList.dropLast path),
        query := query, fragment := fragment }

/-- Whether links can be read on a page with this address. -/
def isBase (u : Url) : Bool :=
  match u.path with
  | .unstructured _ => false
  | .segments _ => true

/-- Reads an address, or a link on a page. -/
def read (base : Option Url) (text : List Char) : Except UrlError Url :=
  let s := significant text
  match readScheme s with
  | some (scheme, rest) =>
    let relative (s : List Char) : Except UrlError Url :=
      match base with
      | some b => readRelative b s
      | none => .error .noBase
    readWithScheme base relative scheme rest
  | none =>
    match base with
    | none => .error .noBase
    | some b =>
      if s.head? = some '#' then readRelative b s
      else if b.isBase then readRelative b s
      else .error .opaqueBase

/-- Reads an address. -/
def ofText (text : String) : Except UrlError Url := read none text.toList

/-- Reads a link on a page. -/
def join (page : Url) (link : List Char) : Except UrlError Url := read (some page) link

end SiteTech.Url
