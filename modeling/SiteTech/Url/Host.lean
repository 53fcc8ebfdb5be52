import SiteTech.Url.Domain

namespace SiteTech

/-- What can be wrong with an address of a resource. -/
inductive UrlError where
  | emptyHost
  | badDomain
  | badDomainChar
  | badIpv4
  | badIpv6
  | badPort
  | noBase
  | opaqueBase
deriving DecidableEq, Repr

/-- The error in words. -/
def UrlError.message : UrlError → String
  | emptyHost => "empty host"
  | badDomain => "invalid international domain name"
  | badDomainChar => "invalid domain character"
  | badIpv4 => "invalid IPv4 address"
  | badIpv6 => "invalid IPv6 address"
  | badPort => "invalid port number"
  | noBase => "relative URL without a base"
  | opaqueBase => "relative URL with a cannot-be-a-base base"

namespace Url

/-- A host. -/
inductive Host where
  | domain (name : List Char)
  | ipv4 (address : Nat)
  | ipv6 (pieces : List Nat)
deriving DecidableEq, Repr

/-- A part of an address: the outer `none` is no number, the inner one a number beyond 32 bits. -/
def ipv4Number (s : List Char) : Option (Option Nat) :=
  let read (base : Nat) (digits : List Char) : Option (Option Nat) :=
    let step (acc : Option Nat) (c : Char) : Option Nat :=
      match acc, Text.hexValue? c with
      | some n, some d => if d < base then some (n * base + d) else none
      | _, _ => none
    match digits.foldl step (some 0) with
    | some n => some (if n < UInt32.size then some n else none)
    | none => none
  match s with
  | [] => none
  | '0' :: 'x' :: rest => if rest.isEmpty then some (some 0) else read 16 rest
  | '0' :: 'X' :: rest => if rest.isEmpty then some (some 0) else read 16 rest
  | '0' :: c :: rest => read 8 (c :: rest)
  | s => read 10 s

/-- Whether the last label of a name is a number, so that the name is to be an address. -/
def endsInNumber (name : List Char) : Bool :=
  let labels := (Text.splitOn '.' name).reverse
  let last := match labels with
    | [] :: rest => rest.head?
    | l :: _ => some l
    | [] => none
  match last with
  | none => false
  | some l => (!l.isEmpty && l.all Text.isAsciiDigit) || (ipv4Number l).isSome

/-- Reads an address of one to four parts. The last part fills all bytes that are left. -/
def readIpv4 (name : List Char) : Option Nat :=
  let labels := Text.splitOn '.' name
  let labels := if labels.getLast? = some [] then labels.dropLast else labels
  if 4 < labels.length then none
  else
    match labels.mapM fun l => (ipv4Number l).join with
    | none => none
    | some numbers =>
      let front := numbers.dropLast
      let last := numbers.getLastD 0
      let room := 8 * (4 - front.length)
      if 1 <<< room ≤ last ∨ front.any (255 < ·) then none
      else some (((front.foldl (fun a n => a * 256 + n) 0) <<< room) + last)

/-- Writes an address of four bytes. -/
def showIpv4 (a : Nat) : List Char :=
  Text.join ['.'] ([(a >>> 24) % 256, (a >>> 16) % 256, (a >>> 8) % 256, a % 256].map Text.decimal)

/-- Reads the hexadecimal digits of a piece, at most four of them. -/
def readPiece (acc : Nat) : Nat → List Char → Nat × List Char
  | 0, s => (acc, s)
  | fuel + 1, c :: rest =>
    match Text.hexValue? c with
    | some d => readPiece (acc * 16 + d) fuel rest
    | none => (acc, c :: rest)
  | _ + 1, [] => (acc, [])

/-- Reads a decimal byte without needless zeros. -/
def readByte (s : List Char) : Option (Nat × List Char) :=
  let ds := s.takeWhile Text.isAsciiDigit
  if ds.isEmpty || (ds.length != 1 && ds.head? == some '0') || 3 < ds.length then none
  else
    match Text.readDigits 0 ds with
    | some n => if n ≤ 255 then some (n, s.drop ds.length) else none
    | none => none

/-- Reads four bytes with points between them, to the end. -/
def readBytes (s : List Char) : Option (List Nat) :=
  match readByte s with
  | some (a, '.' :: s) =>
    match readByte s with
    | some (b, '.' :: s) =>
      match readByte s with
      | some (c, '.' :: s) =>
        match readByte s with
        | some (d, []) => some [a * 256 + b, c * 256 + d]
        | _ => none
      | _ => none
    | _ => none
  | _ => none

/-- Reads pieces. `gap` is the number of pieces before the double colon, if it has come. -/
def readPieces : Nat → List Nat → Option Nat → List Char → Option (List Nat × Option Nat)
  | 0, _, _, _ => none
  | _ + 1, pieces, gap, [] => some (pieces, gap)
  | fuel + 1, pieces, gap, c :: rest =>
    if pieces.length = 8 then none
    else if c = ':' then
      if gap.isSome then none else readPieces fuel pieces (some pieces.length) rest
    else
      let (value, after) := readPiece 0 4 (c :: rest)
      let digits := (c :: rest).length - after.length
      match after with
      | '.' :: _ =>
        if digits = 0 ∨ 6 < pieces.length then none
        else (readBytes (c :: rest)).map fun bs => (pieces ++ bs, gap)
      | ':' :: more => if more.isEmpty then none else readPieces fuel (pieces ++ [value]) gap more
      | [] => some (pieces ++ [value], gap)
      | _ => none

/-- Reads an address of eight pieces, of which zeros may be left out once. -/
def readIpv6 (s : List Char) : Option (List Nat) :=
  let start := match s with
    | ':' :: ':' :: rest => readPieces (rest.length + 1) [] (some 0) rest
    | ':' :: _ => none
    | s => readPieces (s.length + 1) [] none s
  match start with
  | none => none
  | some (pieces, none) => if pieces.length = 8 then some pieces else none
  | some (pieces, some gap) =>
    if 8 ≤ pieces.length then none
    else some (pieces.take gap ++ List.replicate (8 - pieces.length) 0 ++ pieces.drop gap)

/-- The length of the run of zeros at the front. -/
def zeroRun (pieces : List Nat) : Nat := (pieces.takeWhile (· == 0)).length

/-- The first longest run of at least two zeros: its index and its length. -/
def longestZeros (pieces : List Nat) : Option (Nat × Nat) :=
  let runs := (List.range pieces.length).map fun i => (i, zeroRun (pieces.drop i))
  runs.foldl (fun best r =>
    if 2 ≤ r.2 then
      match best with
      | some b => if b.2 < r.2 then some r else best
      | none => some r
    else best) none

/-- Writes an address of eight pieces. -/
def showIpv6 (pieces : List Nat) : List Char :=
  let show_ (l : List Nat) : List Char := Text.join [':'] (l.map (Nat.toDigits 16))
  match longestZeros pieces with
  | none => show_ pieces
  | some (i, n) => show_ (pieces.take i) ++ [':', ':'] ++ show_ (pieces.drop (i + n))

/-- The text of a host. -/
def Host.text : Host → List Char
  | .domain name => name
  | .ipv4 a => showIpv4 a
  | .ipv6 pieces => '[' :: showIpv6 pieces ++ [']']

/-- Reads an address in brackets. -/
def readBracketed (s : List Char) : Except UrlError Host :=
  match s.getLast? with
  | some ']' =>
    match readIpv6 s.dropLast with
    | some pieces => .ok (.ipv6 pieces)
    | none => .error .badIpv6
  | _ => .error .badIpv6

/-- The bytes of a text in which a percent sign with two digits stands for a byte. -/
def percentDecode : List UInt8 → List UInt8
  | a :: b :: c :: rest =>
    match Text.hexValue? (Char.ofNat b.toNat), Text.hexValue? (Char.ofNat c.toNat) with
    | some x, some y =>
      if a = 37 then UInt8.ofNat (x * 16 + y) :: percentDecode rest
      else a :: percentDecode (b :: c :: rest)
    | _, _ => a :: percentDecode (b :: c :: rest)
  | rest => rest

/-- Reads a host of a scheme with known rules. -/
def readHost (s : List Char) : Except UrlError Host :=
  match s with
  | '[' :: rest => readBracketed rest
  | s =>
    match domainToAscii (percentDecode (Text.encode (String.ofList s))) with
    | none => .error .badDomain
    | some [] => .error .emptyHost
    | some name =>
      if endsInNumber name then
        match readIpv4 name with
        | some a => .ok (.ipv4 a)
        | none => .error .badIpv4
      else .ok (.domain name)

end Url

end SiteTech
