import SiteTech.Http.Gzip
import SiteTech.Http.Header
import SiteTech.Http.Status
import SiteTech.Url.Reader

namespace SiteTech.Http

/-- An answer as it arrives. `received` are the bytes after the fields; `stalls` says that the
connection stays open after them although nothing more comes. The certificate is that of the server,
if the connection has one. -/
structure Message where
  status : UInt16
  headers : List Header
  received : List UInt8
  stalls : Bool
  certificate : Option (List UInt8)
deriving Repr, Inhabited

/-- Why an answer has no body. -/
inductive BodyFault where
  | unfinished
  | malformed
deriving DecidableEq, Repr

/-- How the end of a body is found: there is none, it is made of chunks, its size is told, or it goes
on until the connection is closed. -/
inductive Framing where
  | bodiless
  | chunked
  | sized (size : Nat)
  | untilClose
deriving DecidableEq, Repr

/-- The values of the fields of a name. -/
def valuesOf (name : String) (headers : List Header) : List (List UInt8) :=
  (headers.filter fun h => h.name == name.toList).map Header.value

/-- Whether a byte is a space or a tab. -/
def isGapByte (b : UInt8) : Bool := b == 32 || b == 9

/-- Drops gaps from both ends. -/
def trimGaps (bytes : List UInt8) : List UInt8 :=
  Text.dropEndWhile isGapByte (bytes.dropWhile isGapByte)

/-- A field as it stands in an answer. Gaps around its value do not count. -/
def Header.ofField (name : List Char) (value : List UInt8) : Except HeaderFault Header :=
  Header.ofParts name (trimGaps value)

/-- The parts of a value between commas. -/
def commaParts (value : List UInt8) : List (List UInt8) := (Text.splitOn 44 value).map trimGaps

/-- The number that a value writes in decimal digits. -/
def number? (value : List UInt8) : Option Nat :=
  if value.isEmpty then none
  else Text.readDigits 0 (value.map fun b => Char.ofNat b.toNat)

/-- The size that fields tell. Several of them have to agree. -/
def toldSize? (values : List (List UInt8)) : Option Nat :=
  match (values.flatMap commaParts).mapM number? with
  | some (n :: rest) => if rest.all (· == n) then some n else none
  | _ => none

/-- Whether the last coding that fields name is that of chunks. -/
def endsChunked (values : List (List UInt8)) : Bool :=
  match (values.flatMap commaParts).getLast? with
  | some coding => Text.sameAscii (coding.map fun b => Char.ofNat b.toNat) "chunked".toList
  | none => false

/-- How the end of the body of an answer is found. Sizes that contradict each other or are none make
the answer unreadable. -/
def framing? (status : UInt16) (headers : List Header) : Option Framing :=
  let codings := valuesOf "transfer-encoding" headers
  let sizes := valuesOf "content-length" headers
  if isBodiless status then some .bodiless
  else if !codings.isEmpty then some (if endsChunked codings then .chunked else .untilClose)
  else if !sizes.isEmpty then (toldSize? sizes).map .sized
  else some .untilClose

/-- Parts bytes at the first end of a line. -/
def splitLine? (bytes : List UInt8) : Option (List UInt8 × List UInt8) :=
  (Text.splitOnce 10 bytes).map fun (line, rest) =>
    (if line.getLast? == some 13 then line.dropLast else line, rest)

/-- The size of a chunk: hexadecimal digits, and perhaps something after a semicolon. -/
def chunkSize? (line : List UInt8) : Option Nat :=
  let digits := trimGaps (Text.before 59 line)
  if digits.isEmpty then none
  else
    digits.foldlM (fun n b => (Text.hexValue? (Char.ofNat b.toNat)).map (n * 16 + ·)) 0

/-- Whether the lines that follow the last chunk come to an end: an empty line ends them. -/
def endsTrailers : Nat → List UInt8 → Bool
  | 0, _ => false
  | fuel + 1, bytes =>
    match splitLine? bytes with
    | none => false
    | some (line, rest) => line.isEmpty || endsTrailers fuel rest

/-- Joins chunks, at most `fuel` of them. -/
def joinChunks : Nat → List UInt8 → Except BodyFault (List UInt8)
  | 0, _ => .error .unfinished
  | fuel + 1, bytes =>
    match splitLine? bytes with
    | none => .error .unfinished
    | some (line, rest) =>
      match chunkSize? line with
      | none => .error .malformed
      | some 0 => if endsTrailers (rest.length + 1) rest then .ok [] else .error .unfinished
      | some size =>
        if rest.length < size then .error .unfinished
        else
          match splitLine? (rest.drop size) with
          | none => .error .unfinished
          | some (_ :: _, _) => .error .malformed
          | some ([], rest') => (joinChunks fuel rest').map (rest.take size ++ ·)

/-- The body that some bytes hold. -/
def Framing.body (received : List UInt8) (stalls : Bool) : Framing → Except BodyFault (List UInt8)
  | .bodiless => .ok []
  | .chunked => joinChunks (received.length + 1) received
  | .sized size =>
    if size ≤ received.length then .ok (received.take size) else .error .unfinished
  | .untilClose => if stalls then .error .unfinished else .ok received

namespace Message

/-- Whether the body is packed. -/
def isPacked (m : Message) : Bool :=
  (valuesOf "content-encoding" m.headers).head? == some (Text.encode "gzip")

/-- The fields as they hold for the body: those on how it was packed and on the size that it then had
are dropped. -/
def fields (m : Message) : List Header :=
  if m.isPacked then
    m.headers.filter fun h =>
      h.name != "content-encoding".toList && h.name != "content-length".toList
  else m.headers

/-- The body, unpacked. -/
def body (m : Message) : Except BodyFault (List UInt8) :=
  match framing? m.status m.headers with
  | none => .error .malformed
  | some framing =>
    match framing.body m.received m.stalls with
    | .error fault => .error fault
    | .ok bytes =>
      if m.isPacked then
        match Gzip.unpack? bytes with
        | some content => .ok content
        | none => .error .malformed
      else .ok bytes

/-- Whether an answer can be read at all. -/
def isReadable (m : Message) : Bool := (framing? m.status m.headers).isSome

/-- The text of a body. Bytes that are not UTF-8 are replaced. -/
def text (m : Message) : Except BodyFault String := m.body.map Text.decodeLossy

/-- Characters that may stand in a reference to an address. -/
def isReferenceByte (b : UInt8) : Bool :=
  let c := Char.ofNat b.toNat
  Text.isAsciiLetter c || Text.isAsciiDigit c ||
    ['-', '.', '_', '~', ':', '/', '?', '#', '[', ']', '@', '!', '$', '&', '\'', '(', ')', '*', '+',
      ',', ';', '=', '%'].contains c

/-- The address that an answer to a request sends on to. It has no fragment. -/
def target? (m : Message) (requested : Url) : Option Url :=
  if isRedirect m.status then
    match valuesOf "location" m.headers with
    | [] => none
    | location :: _ =>
      if location.all isReferenceByte then
        match requested.join (Text.decodeLossy location).toList with
        | .ok u => some { u with fragment := none }
        | .error _ => none
      else none
  else none

end Message

/-- The status in the first line of an answer. -/
def statusOfLine? (line : List UInt8) : Option UInt16 :=
  match Text.splitOn 32 line with
  | version :: code :: _ =>
    if (Text.encode "HTTP/1.").isPrefixOf version && code.length = 3 then
      (number? code).map UInt16.ofNat
    else none
  | _ => none

/-- Reads fields up to an empty line, at most `fuel` of them, and gives what follows. -/
def readFields : Nat → List UInt8 → Option (List Header × List UInt8)
  | 0, _ => none
  | fuel + 1, bytes => do
    let (line, rest) ← splitLine? bytes
    if line.isEmpty then return ([], rest)
    let (name, value) ← Text.splitOnce 58 line
    let header ← (Header.ofField (name.map fun b => Char.ofNat b.toNat) value).toOption
    let (headers, rest) ← readFields fuel rest
    return (header :: headers, rest)

/-- Reads an answer whose connection has been closed. -/
def Message.ofBytes? (bytes : List UInt8) : Option Message := do
  let (line, rest) ← splitLine? bytes
  let status ← statusOfLine? line
  let (headers, rest) ← readFields (rest.length + 1) rest
  return ⟨status, headers, rest, false, none⟩

end SiteTech.Http
