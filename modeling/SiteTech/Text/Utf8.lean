namespace SiteTech.Text

/-- Whether a byte lies between two bounds. -/
def byteIn (lo hi : Nat) (b : UInt8) : Bool := lo ≤ b.toNat && b.toNat ≤ hi

/-- The low six bits of a continuation byte. -/
def tailBits (b : UInt8) : Nat := b.toNat % 64

/-- The character of a sequence with one continuation byte, and how many of those were read. -/
def readTwo (b : UInt8) : List UInt8 → Option Char × Nat
  | c :: _ =>
    if byteIn 0x80 0xbf c then (some (Char.ofNat (b.toNat % 32 * 64 + tailBits c)), 1) else (none, 0)
  | [] => (none, 0)

/-- The character of a sequence with two continuation bytes, the first between two bounds. -/
def readThree (lo hi : Nat) (b : UInt8) : List UInt8 → Option Char × Nat
  | c :: rest =>
    if byteIn lo hi c then
      match rest with
      | d :: _ =>
        if byteIn 0x80 0xbf d then
          (some (Char.ofNat (b.toNat % 16 * 4096 + tailBits c * 64 + tailBits d)), 2)
        else (none, 1)
      | [] => (none, 1)
    else (none, 0)
  | [] => (none, 0)

/-- The character of a sequence with three continuation bytes, the first between two bounds. -/
def readFour (lo hi : Nat) (b : UInt8) : List UInt8 → Option Char × Nat
  | c :: rest =>
    if byteIn lo hi c then
      match rest with
      | d :: rest =>
        if byteIn 0x80 0xbf d then
          match rest with
          | e :: _ =>
            if byteIn 0x80 0xbf e then
              (some (Char.ofNat (b.toNat % 8 * 262144 + tailBits c * 4096 + tailBits d * 64 +
                tailBits e)), 3)
            else (none, 2)
          | [] => (none, 2)
        else (none, 1)
      | [] => (none, 1)
    else (none, 0)
  | [] => (none, 0)

/-- Reads one sequence that starts with byte `b`: its character, if it is well formed, and the
number of further bytes that belong to it. -/
def readSequence (b : UInt8) (rest : List UInt8) : Option Char × Nat :=
  if b.toNat < 0x80 then (some (Char.ofNat b.toNat), 0)
  else if byteIn 0xc2 0xdf b then readTwo b rest
  else if b.toNat = 0xe0 then readThree 0xa0 0xbf b rest
  else if b.toNat = 0xed then readThree 0x80 0x9f b rest
  else if byteIn 0xe1 0xef b then readThree 0x80 0xbf b rest
  else if b.toNat = 0xf0 then readFour 0x90 0xbf b rest
  else if byteIn 0xf1 0xf3 b then readFour 0x80 0xbf b rest
  else if b.toNat = 0xf4 then readFour 0x80 0x8f b rest
  else (none, 0)

/-- Decodes bytes after skipping some. -/
def decodeFrom : Nat → List UInt8 → List (Option Char)
  | _, [] => []
  | skip + 1, _ :: rest => decodeFrom skip rest
  | 0, b :: rest =>
    let (c, n) := readSequence b rest
    c :: decodeFrom n rest

/-- The characters that bytes stand for; `none` for each ill-formed sequence. -/
def decode (bytes : List UInt8) : List (Option Char) := decodeFrom 0 bytes

/-- The text of bytes, with a replacement character for each ill-formed sequence. -/
def decodeLossy (bytes : List UInt8) : String :=
  String.ofList ((decode bytes).map (·.getD (Char.ofNat 0xfffd)))

/-- The text of bytes that are well formed. -/
def decode? (bytes : List UInt8) : Option String :=
  ((decode bytes).mapM id).map String.ofList

/-- The bytes of a text. -/
def encode (s : String) : List UInt8 := s.toUTF8.toList

end SiteTech.Text
