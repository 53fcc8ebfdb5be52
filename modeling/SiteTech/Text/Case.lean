import SiteTech.Text.CaseData

namespace SiteTech.Text

/-- Looks a code point up in a list of runs. -/
def caseRun? (runs : List CaseRun) (n : Nat) : Option Nat := runs.findSome? (·.image? n)

/-- Lower case of one character, a capital sigma in the middle of a word. -/
def lowerChar (c : Char) : List Char :=
  if c.toNat < 128 then [c.toLower]
  else if c.toNat = 0x130 then ['i', Char.ofNat 0x307]
  else
    match caseRun? lowerRuns c.toNat with
    | some n => [Char.ofNat n]
    | none => [c]

/-- Upper case of one character. -/
def upperChar (c : Char) : List Char :=
  if c.toNat < 128 then [c.toUpper]
  else
    match upperExpansions.find? (·.1 == c.toNat) with
    | some (_, s) => s.toList
    | none =>
      match caseRun? upperRuns c.toNat with
      | some n => [Char.ofNat n]
      | none => [c]

/-- Whether the first character that a case search does not skip is cased. -/
def startsCased (s : List Char) : Bool :=
  match s.dropWhile fun c => caseIgnorableRanges.contains c.toNat with
  | [] => false
  | c :: _ => casedRanges.contains c.toNat

/-- The capital sigma. -/
def capitalSigma : Char := Char.ofNat 0x3a3

/-- Lower case of a text that comes after the characters `before`, the nearest of them first. A
capital sigma becomes final where a cased letter comes before it and none after it. -/
def lowerFrom (before : List Char) : List Char → List Char
  | [] => []
  | c :: rest =>
    (if c = capitalSigma then
      [Char.ofNat (if startsCased before && !startsCased rest then 0x3c2 else 0x3c3)]
    else lowerChar c) ++ lowerFrom (c :: before) rest

/-- Lower case of a text. -/
def lowerList (s : List Char) : List Char := lowerFrom [] s

/-- Lower case of a text. -/
def lower (s : String) : String := String.ofList (lowerList s.toList)

/-- Upper case of a text. -/
def upper (s : String) : String := String.ofList (s.toList.flatMap upperChar)

end SiteTech.Text
