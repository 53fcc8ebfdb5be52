import SiteTech.Text.Normal
import SiteTech.Text.Category
import SiteTech.Text.Utf8
import SiteTech.Url.MappingData
import SiteTech.Url.ScriptData
import SiteTech.Url.Punycode

namespace SiteTech.Url

/-- The mapping of a character: `none` where it may not stand in a name. -/
def mapChar (c : Char) : Option (List Char) :=
  let n := c.toNat
  if n < 128 then some [c.toLower]
  else if disallowedRanges.contains n then none
  else if ignoredRanges.contains n then some []
  else
    let run := mappingRuns.find? fun r =>
      decide (r.first ≤ n ∧ n ≤ r.first + (r.length - 1) * r.step) && (n - r.first) % r.step == 0
    match run with
    | some r => some [Char.ofNat (r.target + (n - r.first))]
    | none =>
      match mappings.find? (·.1 == n) with
      | some (_, target) => some (target.map Char.ofNat)
      | none => some [c]

/-- Maps all characters of a name. -/
def mapChars (s : List Char) : Option (List Char) := (s.mapM mapChar).map List.flatten

/-- ASCII characters that may not stand in a name. -/
def isForbidden (c : Char) : Bool :=
  c.toNat ≤ 0x20 || c.toNat == 0x7f ||
    ['%', '#', '/', ':', '<', '>', '?', '@', '[', '\\', ']', '^', '|'].contains c

/-- Whether a character is a combining mark. -/
def isMark (c : Char) : Bool :=
  128 ≤ c.toNat && Text.categories.any fun e =>
    (e.1.contains "mn" || e.1.contains "mc" || e.1.contains "me") && e.2.contains c.toNat

/-- Whether a joiner may stand between what comes before it, nearest first, and what comes after. -/
def joinerAllowed (c : Char) (before after : List Char) : Bool :=
  let afterVirama := match before with
    | b :: _ => Text.combiningClass b.toNat == 9
    | [] => false
  let next (s : List Char) : Joining :=
    match s.dropWhile fun c => joining c == .transparent with
    | [] => .none
    | c :: _ => joining c
  afterVirama ||
    (c.toNat == 0x200c &&
      (next before == .leftOnly || next before == .dual) &&
      (next after == .rightOnly || next after == .dual))

/-- Whether all joiners of a label are allowed; `before` is in reverse. -/
def joinersAllowed (before : List Char) : List Char → Bool
  | [] => true
  | c :: rest =>
    (if c.toNat = 0x200c ∨ c.toNat = 0x200d then joinerAllowed c before rest else true) &&
      joinersAllowed (c :: before) rest

/-- Whether a label of a name with characters that go to the left keeps the rules of direction. -/
def directionAllowed (label : List Char) : Bool :=
  let ds := label.map direction
  let last := Text.dropEndWhile (· == Direction.mark) ds
  match ds with
  | [] => true
  | .left :: _ =>
    ds.all (fun d => !([Direction.right, .arabic, .arabicNumber].contains d)) &&
      (match last.getLast? with
        | some d => d == .left || d == .number
        | none => false)
  | d :: _ =>
    (d == .right || d == .arabic) &&
      ds.all (fun d => d != .left) &&
      (match last.getLast? with
        | some d => [Direction.right, .arabic, .number, .arabicNumber].contains d
        | none => false) &&
      !(ds.contains .number && ds.contains .arabicNumber)

/-- Whether a label goes to the left somewhere. -/
def hasLeftward (label : List Char) : Bool :=
  label.any fun c => [Direction.right, .arabic, .arabicNumber].contains (direction c)

/-- Whether a label is allowed by itself. -/
def labelAllowed (label : List Char) : Bool :=
  (match label with
    | c :: _ => !isMark c
    | [] => true) && joinersAllowed [] label

/-- The mark in front of ASCII forms. -/
def asciiMark : List Char := ['x', 'n', '-', '-']

/-- A label with its characters and its ASCII form, if it is allowed. -/
def readLabel (label : List Char) : Option (List Char × List Char) :=
  if asciiMark.isPrefixOf label then
    match Punycode.decode (label.drop 4) with
    | none => none
    | some chars =>
      if chars.all (fun c => c.toNat < 128) || mapChars chars != some chars ||
          Text.normalize chars != chars || !labelAllowed chars ||
          asciiMark ++ Punycode.encode chars != label then none
      else some (chars, label)
  else if label.all fun c => c.toNat < 128 then some (label, label)
  else if labelAllowed label then some (label, asciiMark ++ Punycode.encode label)
  else none

/-- The ASCII form of a domain name that is given in bytes. The name is mapped character by character,
brought to its normal form and cut into labels. A label that is not ASCII is then written in its ASCII
form, and one that has this form already must be the form of an allowed label. -/
def domainToAscii (bytes : List UInt8) : Option (List Char) := do
  let chars := (Text.decode bytes).map (·.getD (Char.ofNat 0xfffd))
  let mapped ← mapChars chars
  let name := Text.normalize mapped
  if name.any isForbidden then none
  let labels ← (Text.splitOn '.' name).mapM readLabel
  let plain := labels.map (·.1)
  if plain.any hasLeftward && !plain.all directionAllowed then none
  return Text.join ['.'] (labels.map (·.2))

end SiteTech.Url
