import SiteTech.Regex.CharSet

namespace SiteTech.Regex

/-- A condition on the place between two characters. -/
inductive Look where
  | textStart
  | textEnd
  | lineStart
  | lineEnd
  | crlfStart
  | crlfEnd
  | word (ascii : Bool)
  | notWord (ascii : Bool)
  | wordStart (ascii : Bool)
  | wordEnd (ascii : Bool)
  | wordStartHalf (ascii : Bool)
  | wordEndHalf (ascii : Bool)
deriving Repr, Inhabited, DecidableEq

/-- A pattern. Groups without an index only bracket; `nesting` counts the brackets of a class. -/
inductive Node where
  | empty
  | set (s : CharSet) (nesting : Nat)
  | look (l : Look)
  | group (index : Option Nat) (n : Node)
  | concat (items : List Node)
  | alternate (branches : List Node)
  | repeated (min : Nat) (max : Option Nat) (greedy : Bool) (n : Node)
deriving Repr, Inhabited

/-- The settings under which a part of a pattern is read. -/
structure Flags where
  ignoreCase : Bool
  multiLine : Bool
  dotAll : Bool
  swapGreed : Bool
  crlf : Bool
  unicode : Bool
  extended : Bool
deriving Repr, Inhabited

namespace Node

mutual

/-- How deep groups, repetitions, sequences and choices are nested. -/
def depth : Node → Nat
  | .empty => 0
  | .set _ nesting => nesting
  | .look _ => 0
  | .group _ n => n.depth + 1
  | .concat items => depthList items + 1
  | .alternate branches => depthList branches + 1
  | .repeated _ _ _ n => n.depth + 1

/-- The greatest depth in a list. -/
def depthList : List Node → Nat
  | [] => 0
  | n :: rest => max n.depth (depthList rest)

end

mutual

/-- The length of the shortest text that a pattern matches; `none` if it matches nothing. -/
def minLength : Node → Option Nat
  | .empty => some 0
  | .set s _ => if s.ranges.isEmpty then none else some 1
  | .look _ => some 0
  | .group _ n => n.minLength
  | .concat items => minLengthSum items
  | .alternate branches => minLengthMin branches
  | .repeated min _ _ n => if min = 0 then some 0 else n.minLength.map (min * ·)

/-- The sum of the least lengths. -/
def minLengthSum : List Node → Option Nat
  | [] => some 0
  | n :: rest =>
    match n.minLength, minLengthSum rest with
    | some a, some b => some (a + b)
    | _, _ => none

/-- The least of the least lengths. -/
def minLengthMin : List Node → Option Nat
  | [] => none
  | n :: rest =>
    match n.minLength, minLengthMin rest with
    | some a, some b => some (min a b)
    | some a, none => some a
    | none, b => b

end

mutual

/-- Whether a pattern matches the empty text only. -/
def onlyEmpty : Node → Bool
  | .empty => true
  | .set _ _ => false
  | .look _ => true
  | .group _ n => n.onlyEmpty
  | .concat items => onlyEmptyAll items
  | .alternate branches => onlyEmptyAll branches
  | .repeated _ max _ n => max == some 0 || n.onlyEmpty

/-- Whether all patterns of a list match the empty text only. -/
def onlyEmptyAll : List Node → Bool
  | [] => true
  | n :: rest => n.onlyEmpty && onlyEmptyAll rest

end

/-- A repetition. Repeating what matches the empty text only makes no difference beyond once. -/
def mkRepeated (min : Nat) (max : Option Nat) (greedy : Bool) (n : Node) : Node :=
  let (min, max) := if n.onlyEmpty then
      (if min = 0 then 0 else 1, match max with
        | some 0 => some 0
        | _ => some 1)
    else (min, max)
  if max = some 0 then .group none .empty
  else .repeated min max greedy n

end Node

end SiteTech.Regex
