import SiteTech.Robots.Directive
import SiteTech.Robots.Pattern

namespace SiteTech.Robots

/-- The lengths of the longest patterns that match a path: of those that allow it and of those that
forbid it. -/
structure Verdict where
  allowed : Nat
  forbidden : Nat
deriving DecidableEq, Repr

/-- The verdict of no pattern at all. -/
def Verdict.none : Verdict := ⟨0, 0⟩

/-- Whether a pattern that says something matches the path. -/
def Verdict.decides (v : Verdict) : Bool := 0 < v.allowed || 0 < v.forbidden

/-- Whether the path is allowed. -/
def Verdict.allows (v : Verdict) : Bool := v.forbidden ≤ v.allowed

/-- What has been read of a file: the verdicts of the groups for all agents and of the groups that
name the agent, whether the present group is one of the first or of the second kind, whether a group
of the second kind has been seen, and whether the present group has more than its names. -/
structure Reading where
  general : Verdict
  specific : Verdict
  inGeneral : Bool
  inSpecific : Bool
  named : Bool
  hasRules : Bool
deriving DecidableEq, Repr

namespace Reading

/-- The state before the first line. -/
def start : Reading := ⟨Verdict.none, Verdict.none, false, false, false, false⟩

/-- Whether the present group concerns the agent. -/
def concerns (r : Reading) : Bool := r.inGeneral || r.inSpecific

/-- Changes the verdict that the present group belongs to. A group that names the agent is not one
for all agents. -/
def update (r : Reading) (f : Verdict → Verdict) : Reading :=
  if r.inSpecific then { r with specific := f r.specific }
  else { r with general := f r.general }

end Reading

/-- The product token that a name begins with: letters, hyphens and underscores. -/
def productToken (name : List Char) : List Char :=
  name.takeWhile fun c => Text.isAsciiLetter c || c == '-' || c == '_'

/-- Whether a name stands for all agents: a star, or a star and a blank in front of more. -/
def namesAll : List Char → Bool
  | ['*'] => true
  | '*' :: c :: _ => Text.isBlank c
  | _ => false

/-- Reads the name of a group. Names that follow rules begin a new group. -/
def Reading.addAgent (agent : List Char) (r : Reading) (name : List Char) : Reading :=
  let r :=
    if r.hasRules then { r with inGeneral := false, inSpecific := false, hasRules := false } else r
  if namesAll name then { r with inGeneral := true }
  else if Text.sameAscii agent (productToken name) then { r with inSpecific := true, named := true }
  else r

/-- The pattern of the directory whose front page a pattern names. -/
def directoryOf? (pattern : List Char) : Option (List Char) :=
  let page := pattern.reverse.takeWhile (· != '/')
  let directory := pattern.take (pattern.length - page.length)
  if !directory.isEmpty && "index.htm".toList.isPrefixOf page.reverse then
    some (directory ++ ['$'])
  else none

/-- The length of a pattern that matches the path, zero for one that does not. -/
def matchLength (path pattern : List Char) : Nat :=
  if matchesPath pattern path then pattern.length else 0

/-- The length by which a pattern allows a path. One that names the front page of a directory and
does not match allows the directory. -/
def allowLength (path pattern : List Char) : Nat :=
  if matchesPath pattern path then pattern.length
  else
    match directoryOf? pattern with
    | some directory => matchLength path directory
    | none => 0

/-- Reads a line. -/
def Reading.step (agent path : List Char) (r : Reading) : Directive → Reading
  | .agent name => r.addAgent agent name
  | .allow pattern =>
    if r.concerns then
      { r with hasRules := true }.update fun v =>
        { v with allowed := max v.allowed (allowLength path pattern) }
    else r
  | .disallow pattern =>
    if r.concerns then
      { r with hasRules := true }.update fun v =>
        { v with forbidden := max v.forbidden (matchLength path pattern) }
    else r
  | .other => { r with hasRules := true }

/-- Whether the path is allowed after all lines. -/
def Reading.allows (r : Reading) : Bool :=
  if r.specific.decides then r.specific.allows
  else if r.named then true
  else r.general.allows

/-- Whether a file lets an agent fetch an address. The longest pattern that matches the path decides,
and permission wins a tie. Groups that name the agent come before those for all agents, even if they say
nothing of the path. -/
def allows (body agent url : String) : Bool :=
  ((Directive.ofBody body.toList).foldl
    (Reading.step agent.toList (pathOf url.toList)) Reading.start).allows

end SiteTech.Robots
