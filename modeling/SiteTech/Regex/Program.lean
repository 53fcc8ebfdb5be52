import SiteTech.Regex.Syntax

namespace SiteTech.Regex

/-- One instruction. A `fork` prefers its first way. -/
inductive Instruction where
  | accept
  | refuse
  | one (s : Text.Ranges) (next : Nat)
  | fork (first second : Nat)
  | check (l : Look) (next : Nat)
  | mark (slot : Nat) (next : Nat)

/-- Instructions in the order of their indices. -/
abbrev Code := Array Instruction

namespace Code

/-- Writes an instruction and gives its index. -/
def emit (code : Code) (i : Instruction) : Nat × Code := (code.size, code.push i)

/-- Writes a fork whose better way is the first index when it is greedy. -/
def emitFork (code : Code) (greedy : Bool) (enter leave : Nat) : Nat × Code :=
  code.emit (if greedy then .fork enter leave else .fork leave enter)

/-- Makes a written instruction a fork whose better way is the first index when it is greedy. -/
def setFork (code : Code) (at_ : Nat) (greedy : Bool) (enter leave : Nat) : Code :=
  code.setIfInBounds at_ (if greedy then .fork enter leave else .fork leave enter)

end Code

/-- A part of a program: given where to go on, writes its code and gives the index of its start. -/
abbrev Part := Nat → Code → Nat × Code

/-- The part that does nothing. -/
def Part.skip : Part := fun next code => (next, code)

/-- One part after another. -/
def Part.seq (p q : Part) : Part := fun next code =>
  let (middle, code) := q next code
  p middle code

/-- A part a number of times. -/
def Part.times (p : Part) : Nat → Part
  | 0 => Part.skip
  | n + 1 => Part.seq p (Part.times p n)

/-- A part one or more times. -/
def Part.plus (greedy : Bool) (p : Part) : Part := fun next code =>
  let (back, code) := code.emit .refuse
  let (start, code) := p back code
  (start, code.setFork back greedy start next)

/-- A part any number of times; it does not match the empty text. -/
def Part.star (greedy : Bool) (p : Part) : Part := fun next code =>
  let (back, code) := code.emit .refuse
  let (start, code) := p back code
  (back, code.setFork back greedy start next)

/-- A part once or not at all. -/
def Part.optional (greedy : Bool) (p : Part) : Part := fun next code =>
  let (start, code) := p next code
  code.emitFork greedy start next

/-- A part at most a number of times. Each time that it is left out, so are all after it. -/
def Part.atMost (greedy : Bool) (p : Part) : Nat → Part
  | 0 => Part.skip
  | n + 1 => fun next code =>
    let (rest, code) := Part.atMost greedy p n next code
    let (start, code) := p rest code
    code.emitFork greedy start next

/-- A part a number of times between two bounds. -/
def Part.between (min : Nat) (max : Option Nat) (greedy nullable : Bool) (p : Part) : Part :=
  match max with
  | some max => Part.seq (p.times min) (p.atMost greedy (max - min))
  | none =>
    match min with
    | 0 => if nullable then Part.optional greedy (Part.plus greedy p) else Part.star greedy p
    | n + 1 => Part.seq (p.times n) (Part.plus greedy p)

/-- The choice between parts, a better one before a worse one. -/
def Part.choice : List Part → Part
  | [] => fun _ code => code.emit .refuse
  | [p] => p
  | p :: rest => fun next code =>
    let (second, code) := Part.choice rest next code
    let (first, code) := p next code
    code.emit (.fork first second)

namespace Node

mutual

/-- The program part of a pattern. -/
def part : Node → Part
  | .empty => Part.skip
  | .set s _ => fun next code =>
    if s.ranges.isEmpty then code.emit .refuse else code.emit (.one s.lookup next)
  | .look l => fun next code => code.emit (.check l next)
  | .group none n => n.part
  | .group (some i) n => fun next code =>
    let (close, code) := code.emit (.mark (2 * i + 1) next)
    let (start, code) := n.part close code
    code.emit (.mark (2 * i) start)
  | .concat items => (parts items).foldr Part.seq Part.skip
  | .alternate branches => Part.choice (parts branches)
  | .repeated min max greedy n =>
    Part.between min max greedy (n.minLength != none && n.minLength == some 0) n.part

/-- The program parts of some patterns. -/
def parts : List Node → List Part
  | [] => []
  | n :: rest => n.part :: parts rest

end

mutual

/-- One more than the largest index of a group. -/
def groupCount : Node → Nat
  | .empty => 1
  | .set _ _ => 1
  | .look _ => 1
  | .group none n => n.groupCount
  | .group (some i) n => max (i + 1) n.groupCount
  | .concat items => groupCountAll items
  | .alternate branches => groupCountAll branches
  | .repeated _ _ _ n => n.groupCount

/-- One more than the largest index of a group in a list. -/
def groupCountAll : List Node → Nat
  | [] => 1
  | n :: rest => max n.groupCount (groupCountAll rest)

end

end Node

/-- A program: its instructions, where it starts, and how many groups it marks, the whole match
counted. -/
structure Program where
  code : Code
  start : Nat
  groups : Nat

/-- The program of a pattern. It is made from the end: the code of a part is written once it is known
where that part goes on. -/
def Program.ofNode (n : Node) : Program :=
  let (close, code) := Code.emit (#[.accept]) (.mark 1 0)
  let (body, code) := n.part close code
  let (start, code) := code.emit (.mark 0 body)
  ⟨code, start, n.groupCount⟩

end SiteTech.Regex
