import SiteTech.Regex.Program
import SiteTech.Text.Word

namespace SiteTech.Regex

/-- Whether a neighbour is a word character. -/
def isWordAt (ascii : Bool) : Option Char → Bool
  | none => false
  | some c => if ascii then c.toNat < 128 && Text.isWord c else Text.isWord c

/-- Whether a condition holds between two neighbours; a neighbour is missing at an end. -/
def Look.holds (l : Look) (before after : Option Char) : Bool :=
  match l with
  | .textStart => before.isNone
  | .textEnd => after.isNone
  | .lineStart => before.isNone || before == some '\n'
  | .lineEnd => after.isNone || after == some '\n'
  | .crlfStart => before.isNone || before == some '\n' || (before == some '\r' && after != some '\n')
  | .crlfEnd => after.isNone || after == some '\r' || (after == some '\n' && before != some '\r')
  | .word a => isWordAt a before != isWordAt a after
  | .notWord a => isWordAt a before == isWordAt a after
  | .wordStart a => !isWordAt a before && isWordAt a after
  | .wordEnd a => isWordAt a before && !isWordAt a after
  | .wordStartHalf a => !isWordAt a before
  | .wordEndHalf a => !isWordAt a after

/-- Positions of the ends of groups. -/
abbrev Slots := Array (Option Nat)

/-- The ways that are followed at one place, the best first. `seen` holds for each instruction the
last place, plus one, at which a way came to it. -/
structure Front where
  seen : Array Nat
  ways : Array (Nat × Slots)

/-- A text to be searched. -/
abbrev Haystack := Array Char

/-- The character before a place. -/
def charBefore (hay : Haystack) (i : Nat) : Option Char := if i = 0 then none else hay[i - 1]?

/-- Follows an instruction until a character is asked for, and adds the ways found. `fuel` bounds
the length of a way; a way never comes twice to one instruction. -/
def follow (code : Code) (hay : Haystack) (i : Nat) : Nat → Nat → Slots → Front → Front
  | 0, _, _, front => front
  | fuel + 1, pc, slots, front =>
    if front.seen[pc]? == some (i + 1) then front
    else
      let front := { front with seen := front.seen.setIfInBounds pc (i + 1) }
      match code[pc]? with
      | none => front
      | some .refuse => front
      | some .accept => { front with ways := front.ways.push (pc, slots) }
      | some (.one _ _) => { front with ways := front.ways.push (pc, slots) }
      | some (.fork a b) => follow code hay i fuel b slots (follow code hay i fuel a slots front)
      | some (.check l next) =>
        if l.holds (charBefore hay i) hay[i]? then follow code hay i fuel next slots front else front
      | some (.mark slot next) =>
        follow code hay i fuel next (slots.setIfInBounds slot (some i)) front

/-- Moves the ways over a character. The first way that accepts ends the walk: it is the best match
so far, and worse ways are dropped. -/
def advance (code : Code) (hay : Haystack) (i : Nat) (c : Option Char) :
    List (Nat × Slots) → Front → Front × Option Slots
  | [], front => (front, none)
  | (pc, slots) :: rest, front =>
    match code[pc]? with
    | some .accept => (front, some slots)
    | some (.one s next) =>
      match c with
      | some c =>
        let front :=
          if s.contains c.toNat then follow code hay (i + 1) (code.size + 1) next slots front
          else front
        advance code hay i (some c) rest front
      | none => advance code hay i none rest front
    | _ => advance code hay i c rest front

/-- Searches from a place on, given the ways at that place and the best match so far. With `first`
the search ends at the first match, wherever it would go on to. -/
def scan (p : Program) (hay : Haystack) (first : Bool) (blank : Slots) :
    Nat → Nat → Front → Option Slots → Option Slots
  | 0, _, _, best => best
  | fuel + 1, i, front, best =>
    let front :=
      if best.isNone then follow p.code hay i (p.code.size + 1) p.start blank front else front
    if front.ways.isEmpty && best.isSome then best
    else
      let (next, found) :=
        advance p.code hay i hay[i]? front.ways.toList { front with ways := #[] }
      let best := found.or best
      if first && best.isSome then best
      else if hay.size ≤ i then best
      else scan p hay first blank fuel (i + 1) next best

/-- Searches for the first match that starts at a place or after it. All ways through the program are
followed side by side, character by character; where two of them meet, the better one goes on alone. -/
def Program.search (p : Program) (hay : Haystack) (first : Bool) (start : Nat) : Option Slots :=
  let blank : Slots := if first then #[] else Array.replicate (2 * p.groups) none
  scan p hay first blank (hay.size - start + 1) start ⟨Array.replicate p.code.size 0, #[]⟩ none

/-- A match: the places of its groups, the whole match first; `none` for a group without part in
it. -/
structure Match where
  groups : List (Option (Nat × Nat))

/-- The groups of a list of slots. -/
def groupsOf : List (Option Nat) → List (Option (Nat × Nat))
  | a :: b :: rest =>
    (match a, b with
      | some a, some b => some (a, b)
      | _, _ => none) :: groupsOf rest
  | _ => []

/-- All matches from a place on. An empty match where the last match ended does not count. -/
def Program.matchesFrom (p : Program) (hay : Haystack) :
    Nat → Nat → Option Nat → List Match
  | 0, _, _ => []
  | fuel + 1, start, last =>
    if hay.size < start then []
    else
      match p.search hay false start with
      | none => []
      | some slots =>
        match groupsOf slots.toList with
        | some (a, b) :: rest =>
          if a = b ∧ last = some b then p.matchesFrom hay fuel (start + 1) last
          else ⟨some (a, b) :: rest⟩ :: p.matchesFrom hay fuel b (some b)
        | _ => []

end SiteTech.Regex
