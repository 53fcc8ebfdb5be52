import SiteTech.Regex.Class
import SiteTech.Regex.Size

namespace SiteTech.Regex

/-- Drops the characters of a comment. -/
def dropComment (s : List Char) : List Char := s.dropWhile (· != '\n')

/-- Drops blanks and comments where they do not count. -/
def skipExtended (extended : Bool) (s : List Char) : List Char :=
  if extended then go s.length s else s
where
  /-- Drops blanks and comments, at most `fuel` of them. -/
  go : Nat → List Char → List Char
    | 0, s => s
    | fuel + 1, c :: rest =>
      if Text.isBlank c then go fuel rest
      else if c = '#' then go fuel (dropComment rest)
      else c :: rest
    | _ + 1, [] => []

/-- What one escape or one plain character of a pattern means. -/
inductive Atom where
  | char (c : Char) (byte : Bool)
  | dot
  | set (s : CharSet)
  | look (l : Look)

/-- Whether a character has a meaning of its own in patterns. -/
def isMeta (c : Char) : Bool :=
  ['\\', '.', '+', '*', '?', '(', ')', '|', '[', ']', '{', '}', '^', '$', '#', '&', '-', '~'].contains c

/-- Whether a character may be escaped without need. -/
def isEscapable (c : Char) : Bool :=
  isMeta c || (c.toNat < 128 && !c.isAlphanum && c != '<' && c != '>')

/-- A character by its number. -/
def charOf? (n : Nat) : Option Char :=
  if n < 0xd800 ∨ (0xdfff < n ∧ n < 0x110000) then some (Char.ofNat n) else none

/-- Reads a fixed number of hexadecimal digits. -/
def readHexDigits (x : Bool) : Nat → Nat → List Char → Option (Nat × List Char)
  | 0, acc, s => some (acc, s)
  | n + 1, acc, s =>
    match skipExtended x s with
    | c :: rest => (Text.hexValue? c).bind fun d => readHexDigits x n (acc * 16 + d) rest
    | [] => none

/-- Reads hexadecimal digits up to a closing brace. -/
def readHexBraced (x : Bool) : Nat → Option Nat → List Char → Option (Nat × List Char)
  | 0, _, _ => none
  | fuel + 1, acc, s =>
    match skipExtended x s with
    | '}' :: rest => acc.map (·, rest)
    | c :: rest =>
      (Text.hexValue? c).bind fun d => readHexBraced x fuel (some (acc.getD 0 * 16 + d)) rest
    | [] => none

/-- Reads a character given by its number, after the letter. -/
def readNumbered (x : Bool) (letter : Char) (s : List Char) : Option (Atom × List Char) :=
  match skipExtended x s with
  | '{' :: rest => do
    let (n, rest) ← readHexBraced x (rest.length + 1) none rest
    let c ← charOf? n
    return (.char c false, rest)
  | s => do
    let width := if letter = 'x' then 2 else if letter = 'u' then 4 else 8
    let (n, rest) ← readHexDigits x width 0 s
    let c ← charOf? n
    return (.char c (letter = 'x'), rest)

/-- Splits a property text at its first sign of equality; the flag tells that it negates. -/
def splitProperty (s : List Char) : Option (List Char × Bool × List Char) :=
  match Text.pieces ['!', '='] s with
  | a :: b :: rest => some (a, true, Text.join ['!', '='] (b :: rest))
  | _ =>
    match Text.splitOnce ':' s with
    | some (a, b) => some (a, false, b)
    | none => (Text.splitOnce '=' s).map fun (a, b) => (a, false, b)

/-- The class of a property text. -/
def propertyText (s : List Char) : Option CharSet :=
  match splitProperty s with
  | some (a, true, b) => (propertyValueClass a b).map CharSet.compl
  | some (a, false, b) => propertyValueClass a b
  | none => propertyClass s

/-- Reads a class by property, after its letter. -/
def readProperty (flags : Flags) (negated : Bool) (s : List Char) : Option (Atom × List Char) := do
  if !flags.unicode then none
  let (name, rest) ← match skipExtended flags.extended s with
    | '{' :: rest =>
      let name := rest.takeWhile (· != '}')
      match rest.drop name.length with
      | _ :: rest => some (if flags.extended then name.filter (!Text.isBlank ·) else name, rest)
      | [] => none
    | c :: rest => if c = '\\' then none else some ([c], rest)
    | [] => none
  let base ← propertyText name
  let folded := if flags.ignoreCase then base.fold else base
  return (.set (if negated then folded.compl else folded), rest)

/-- Reads the kind of a word boundary in braces. The outer `none` is a fault; the inner one tells
that the brace is no such kind. -/
def readBoundary (ascii extended : Bool) (s : List Char) : Option (Option (Look × List Char)) :=
  match s with
  | '{' :: rest =>
    match skipExtended extended rest with
    | [] => none
    | c :: _ =>
      if Text.isAsciiLetter c || c == '-' then
        let name := (skipExtended extended rest).takeWhile fun c => Text.isAsciiLetter c || c == '-'
        match skipExtended extended ((skipExtended extended rest).drop name.length) with
        | '}' :: rest =>
          let kind : Option Look :=
            if name = "start".toList then some (.wordStart ascii)
            else if name = "end".toList then some (.wordEnd ascii)
            else if name = "start-half".toList then some (.wordStartHalf ascii)
            else if name = "end-half".toList then some (.wordEndHalf ascii)
            else none
          kind.map fun l => some (l, rest)
        | _ => none
      else some none
  | _ => some none

/-- Reads an escape, after its backslash. -/
def readEscape (flags : Flags) (s : List Char) : Option (Atom × List Char) :=
  let ascii := !flags.unicode
  match s with
  | [] => none
  | c :: rest =>
    if Text.isAsciiDigit c then none
    else if c = 'x' ∨ c = 'u' ∨ c = 'U' then readNumbered flags.extended c rest
    else if c = 'p' ∨ c = 'P' then readProperty flags (c = 'P') rest
    else if ['d', 's', 'w', 'D', 'S', 'W'].contains c then
      (perlClass flags.unicode c).map fun s => (.set s, rest)
    else if isEscapable c then some (.char c false, rest)
    else if c = 'a' then some (.char '\x07' false, rest)
    else if c = 'f' then some (.char '\x0c' false, rest)
    else if c = 't' then some (.char '\t' false, rest)
    else if c = 'n' then some (.char '\n' false, rest)
    else if c = 'r' then some (.char '\r' false, rest)
    else if c = 'v' then some (.char '\x0b' false, rest)
    else if c = 'A' then some (.look .textStart, rest)
    else if c = 'z' then some (.look .textEnd, rest)
    else if c = 'b' then
      match readBoundary ascii flags.extended rest with
      | none => none
      | some none => some (.look (.word ascii), rest)
      | some (some (l, rest)) => some (.look l, rest)
    else if c = 'B' then some (.look (.notWord ascii), rest)
    else if c = '<' then some (.look (.wordStart ascii), rest)
    else if c = '>' then some (.look (.wordEnd ascii), rest)
    else none

/-- An operation between the parts of a bracket class. -/
inductive SetOp where
  | inter
  | diff
  | symmDiff

/-- What has been read of a bracket class: an operation that waits for its right side, and the
members since. -/
structure Bracket where
  pending : Option (SetOp × CharSet)
  members : CharSet

/-- Adds case partners where the flags ask for them. -/
def foldFor (flags : Flags) (s : CharSet) : CharSet :=
  if flags.ignoreCase then if flags.unicode then s.fold else s.foldAscii else s

/-- The set read so far. -/
def Bracket.value (flags : Flags) (b : Bracket) : CharSet :=
  match b.pending with
  | none => b.members
  | some (op, left) =>
    let left := foldFor flags left
    let right := foldFor flags b.members
    match op with
    | .inter => left.inter right
    | .diff => left.diff right
    | .symmDiff => left.symmDiff right

/-- Reads a class in double brackets, after its first bracket and colon. -/
def readNamedClass (flags : Flags) (s : List Char) : Option (CharSet × List Char) := do
  let (negated, s) := match s with
    | '^' :: rest => (true, rest)
    | _ => (false, s)
  let name := s.takeWhile (· != ':')
  match s.drop name.length with
  | ':' :: ']' :: rest =>
    let (_, set) ← bracketClasses.find? fun e => e.1.toList == name
    let set := foldFor flags set
    return (if negated then set.compl else set, rest)
  | _ => none

/-- Reads one member of a bracket class. -/
def readMember (flags : Flags) (s : List Char) : Option (Atom × List Char) :=
  match s with
  | [] => none
  | '\\' :: rest => readEscape flags rest
  | c :: rest => some (.char c false, rest)

/-- The members that an atom adds to a bracket class. -/
def Atom.members? : Atom → Option CharSet
  | .char c _ => some (.single c.toNat)
  | .set s => some s
  | _ => none

/-- The set is acceptable where bytes are matched: it must be ASCII then. -/
def checkBytes (flags : Flags) (s : CharSet) : Option CharSet :=
  if flags.unicode || s.isAscii then some s else none

/-- Reads one member or range of a bracket class. -/
def readRange (flags : Flags) (s : List Char) : Option (CharSet × List Char) := do
  let (first, rest) ← readMember flags s
  match skipExtended flags.extended rest with
  | [] => none
  | '-' :: after =>
    match skipExtended flags.extended after with
    | [] => none
    | ']' :: _ => (first.members?).map (·, '-' :: after)
    | '-' :: _ => (first.members?).map (·, '-' :: after)
    | after =>
      let (last, rest) ← readMember flags after
      match first, last with
      | .char a _, .char b _ =>
        if a.toNat ≤ b.toNat then some (.range a.toNat b.toNat, rest) else none
      | _, _ => none
  | rest => (first.members?).map (·, rest)

/-- Reads the dashes at the start of a bracket class, and a closing bracket that stands for
itself. -/
def readLeading (extended : Bool) : Nat → List (Nat × Nat) → List Char →
    Option (List (Nat × Nat) × List Char)
  | 0, _, _ => none
  | fuel + 1, acc, s =>
    match skipExtended extended s with
    | [] => none
    | '-' :: rest => readLeading extended fuel ((0x2d, 0x2d) :: acc) rest
    | ']' :: rest => if acc.isEmpty then some ([(0x5d, 0x5d)], rest) else some (acc, ']' :: rest)
    | s => some (acc, s)

/-- Reads a bracket class after its opening bracket, or its members from some place on. The number
in the answer counts nested brackets. -/
def readBracket (flags : Flags) : Nat → Option (Bool × Bracket × Nat) → List Char →
    Option (CharSet × Nat × List Char)
  | 0, _, _ => none
  | fuel + 1, none, s =>
    let (negated, s) := match skipExtended flags.extended s with
      | '^' :: rest => (true, rest)
      | s => (false, s)
    match readLeading flags.extended (s.length + 1) [] s with
    | none => none
    | some (lead, rest) =>
      readBracket flags fuel (some (negated, ⟨none, CharSet.ofRanges lead⟩, 1)) rest
  | fuel + 1, some (negated, b, nesting), s =>
    let operate (op : SetOp) (rest : List Char) :=
      readBracket flags fuel (some (negated, ⟨some (op, b.value flags), .none⟩, nesting)) rest
    match skipExtended flags.extended s with
    | [] => none
    | '[' :: rest =>
      let named := match rest with
        | ':' :: rest => readNamedClass flags rest
        | _ => none
      match named with
      | some (set, rest) =>
        readBracket flags fuel (some (negated, { b with members := b.members.union set }, nesting)) rest
      | none =>
        match readBracket flags fuel none rest with
        | none => none
        | some (set, inner, rest) =>
          readBracket flags fuel
            (some (negated, { b with members := b.members.union set }, max nesting (inner + 1))) rest
    | ']' :: rest =>
      let set := foldFor flags (b.value flags)
      (checkBytes flags (if negated then set.compl else set)).map (·, nesting, rest)
    | '&' :: '&' :: rest => operate .inter rest
    | '-' :: '-' :: rest => operate .diff rest
    | '~' :: '~' :: rest => operate .symmDiff rest
    | s =>
      match readRange flags s with
      | none => none
      | some (set, rest) =>
        readBracket flags fuel (some (negated, { b with members := b.members.union set }, nesting)) rest

/-- Reads a decimal count with blanks around it. -/
def readCount (extended : Bool) (s : List Char) : Option (Nat × List Char) :=
  let s := s.dropWhile Text.isBlank
  let ds := s.takeWhile Text.isAsciiDigit
  match Text.readNatBelow UInt32.size ds with
  | none => none
  | some n => some (n, skipExtended extended ((s.drop ds.length).dropWhile Text.isBlank))

/-- Reads the counts of a repetition, after the opening brace. -/
def readCounts (extended : Bool) (s : List Char) : Option (Nat × Option Nat × List Char) := do
  let (low, rest) ← readCount extended (skipExtended extended s)
  match rest with
  | '}' :: rest => return (low, some low, rest)
  | ',' :: rest =>
    match skipExtended extended rest with
    | '}' :: rest => return (low, none, rest)
    | rest =>
      let (high, rest) ← readCount extended rest
      match rest with
      | '}' :: rest => if low ≤ high then some (low, some high, rest) else none
      | _ => none
  | _ => none

/-- Whether a character may stand in the name of a group. -/
def isNameChar (first : Bool) (c : Char) : Bool :=
  let alphabetic := c.isAlpha || (128 ≤ c.toNat &&
    ((findNamed Text.properties "alphabetic").getD CharSet.none).lookup.contains c.toNat)
  let numeric := c.isDigit || (128 ≤ c.toNat && (ofCategories ["nd", "nl", "no"]).lookup.contains c.toNat)
  if first then c == '_' || alphabetic
  else c == '_' || c == '.' || c == '[' || c == ']' || alphabetic || numeric

/-- Reads the name of a group up to its closing angle. -/
def readName (s : List Char) : Option (List Char × List Char) :=
  let name := s.takeWhile (· != '>')
  match s.drop name.length, name with
  | _ :: rest, first :: more =>
    if isNameChar true first && more.all (isNameChar false) then some (name, rest) else none
  | _, _ => none

/-- Sets a flag by its letter. -/
def Flags.set (f : Flags) (c : Char) (v : Bool) : Option Flags :=
  if c = 'i' then some { f with ignoreCase := v }
  else if c = 'm' then some { f with multiLine := v }
  else if c = 's' then some { f with dotAll := v }
  else if c = 'U' then some { f with swapGreed := v }
  else if c = 'u' then some { f with unicode := v }
  else if c = 'R' then some { f with crlf := v }
  else if c = 'x' then some { f with extended := v }
  else none

/-- Reads flags up to a colon or a closing bracket. `seen` holds the letters and the dash that came
before, the nearest first. -/
def readFlags (flags : Flags) (seen : List Char) : List Char → Option (Flags × List Char × List Char)
  | [] => none
  | c :: rest =>
    if c = ':' ∨ c = ')' then
      if seen.head? = some '-' then none else some (flags, seen, c :: rest)
    else if seen.contains c then none
    else if c = '-' then readFlags flags (c :: seen) rest
    else (flags.set c (!seen.contains '-')).bind fun f => readFlags f (c :: seen) rest

/-- The node of a sequence; the items come in reverse. -/
def sequenceOf (items : List (Option Node)) : Node :=
  match items with
  | [] => .empty
  | [n] => n.getD .empty
  | _ => .concat (items.reverse.map (·.getD .empty))

/-- The node of a choice; the branches come in reverse. -/
def choiceOf (branches : List Node) : Node :=
  match branches with
  | [n] => n
  | _ => .alternate branches.reverse

/-- The node of a character under some flags. -/
def literalNode (flags : Flags) (c : Char) (byte : Bool) : Option Node :=
  if !flags.unicode && byte && 128 ≤ c.toNat then none
  else some (.set (foldFor flags (.single c.toNat)) 0)

/-- The node of a dot. -/
def dotNode (flags : Flags) : Option Node :=
  if !flags.unicode then none
  else if flags.dotAll then some (.set (.range 0 CharSet.lastPoint) 0)
  else if flags.crlf then some (.set (CharSet.ofRanges [(10, 10), (13, 13)]).compl 0)
  else some (.set (CharSet.single 10).compl 0)

/-- The node of an atom. -/
def Atom.node (flags : Flags) : Atom → Option Node
  | .char c byte => literalNode flags c byte
  | .dot => dotNode flags
  | .set s => some (.set s 0)
  | .look l => some (.look l)

/-- Reads one character that is no operator. -/
def readAtom (flags : Flags) (s : List Char) : Option (Atom × List Char) :=
  match s with
  | [] => none
  | '\\' :: rest => readEscape flags rest
  | '.' :: rest => some (.dot, rest)
  | '^' :: rest =>
    some (.look (if flags.multiLine then if flags.crlf then .crlfStart else .lineStart
      else .textStart), rest)
  | '$' :: rest =>
    some (.look (if flags.multiLine then if flags.crlf then .crlfEnd else .lineEnd
      else .textEnd), rest)
  | c :: rest => some (.char c false, rest)

/-- The place of the reader: the rest of the text, the number of groups so far and their names. -/
structure Place where
  rest : List Char
  groups : Nat
  names : List (List Char)

/-- How a group starts. -/
inductive Opening where
  | captured (index : Nat)
  | plain (flags : Flags)
  | directive (flags : Flags)

/-- Reads the start of a group, after its bracket. -/
def readOpening (flags : Flags) (p : Place) (s : List Char) : Option (Opening × Place) :=
  let named (s : List Char) : Option (Opening × Place) := do
    let (name, rest) ← readName s
    if p.names.contains name then none
    return (.captured (p.groups + 1), ⟨rest, p.groups + 1, name :: p.names⟩)
  match skipExtended flags.extended s with
  | '?' :: 'P' :: '<' :: rest => named rest
  | '?' :: '<' :: rest =>
    match rest with
    | '=' :: _ => none
    | '!' :: _ => none
    | _ => named rest
  | '?' :: rest => do
    let (f, seen, rest) ← readFlags flags [] rest
    match rest with
    | ')' :: rest => if seen.isEmpty then none else some (.directive f, { p with rest := rest })
    | _ :: rest => some (.plain f, { p with rest := rest })
    | [] => none
  | rest => some (.captured (p.groups + 1), ⟨rest, p.groups + 1, p.names⟩)

/-- Puts a repetition on the last item. -/
def repeatLast (flags : Flags) (min : Nat) (max : Option Nat) (lazy : Bool)
    (items : List (Option Node)) : Option (List (Option Node)) :=
  match items with
  | some n :: rest => some (some (Node.mkRepeated min max (lazy == flags.swapGreed) n) :: rest)
  | _ => none

/-- Reads the mark of a reluctant repetition. -/
def readLazy (s : List Char) : Bool × List Char :=
  match s with
  | '?' :: rest => (true, rest)
  | _ => (false, s)

/-- Reads a choice of sequences up to the end or a closing bracket. The items of the current
sequence and the branches before it are in reverse; an item is `none` where flags were set. -/
def readChoice : Nat → Flags → List (Option Node) → List Node → Place → Option (Node × Place)
  | 0, _, _, _, _ => none
  | fuel + 1, flags, items, branches, p =>
    let rest := skipExtended flags.extended p.rest
    let repeated (min : Nat) (max : Option Nat) (s : List Char) : Option (Node × Place) :=
      let (lazy, s) := readLazy s
      match repeatLast flags min max lazy items with
      | none => none
      | some items => readChoice fuel flags items branches { p with rest := s }
    match rest with
    | [] => some (choiceOf (sequenceOf items :: branches), { p with rest := [] })
    | ')' :: _ => some (choiceOf (sequenceOf items :: branches), { p with rest := rest })
    | '|' :: s => readChoice fuel flags [] (sequenceOf items :: branches) { p with rest := s }
    | '(' :: s =>
      match readOpening flags p s with
      | none => none
      | some (.directive f, p) => readChoice fuel f (none :: items) branches p
      | some (.plain f, p) =>
        match readChoice fuel f [] [] p with
        | some (n, ⟨')' :: s, groups, names⟩) =>
          readChoice fuel flags (some (.group none n) :: items) branches ⟨s, groups, names⟩
        | _ => none
      | some (.captured index, p) =>
        match readChoice fuel flags [] [] p with
        | some (n, ⟨')' :: s, groups, names⟩) =>
          readChoice fuel flags (some (.group (some index) n) :: items) branches ⟨s, groups, names⟩
        | _ => none
    | '[' :: s =>
      match readBracket flags (2 * s.length + 2) none s with
      | none => none
      | some (set, nesting, s) =>
        readChoice fuel flags (some (.set set nesting) :: items) branches { p with rest := s }
    | '?' :: s => repeated 0 (some 1) s
    | '*' :: s => repeated 0 none s
    | '+' :: s => repeated 1 none s
    | '{' :: s =>
      match readCounts flags.extended s with
      | none => none
      | some (min, max, s) => repeated min max (skipExtended flags.extended s)
    | rest =>
      match readAtom flags rest with
      | none => none
      | some (atom, s) =>
        match atom.node flags with
        | none => none
        | some n => readChoice fuel flags (some n :: items) branches { p with rest := s }

/-- How deep patterns may be nested. -/
def maxDepth : Nat := 250

/-- How much space a compiled pattern may take. -/
def maxSize : Nat := 10485760

/-- Reads a pattern. -/
def Node.ofPattern? (ignoreCase : Bool) (source : List Char) : Option Node :=
  let flags : Flags := ⟨ignoreCase, false, false, false, false, true, false⟩
  match readChoice (source.length + 1) flags [] [] ⟨source, 0, []⟩ with
  | some (n, ⟨[], _, _⟩) => if n.depth ≤ maxDepth ∧ n.size ≤ maxSize then some n else none
  | _ => none

end SiteTech.Regex
