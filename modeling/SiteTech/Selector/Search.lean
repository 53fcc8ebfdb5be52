import SiteTech.Html.Document
import SiteTech.Selector.Reader

namespace SiteTech.Selector

open Html (Document Element NodeId NodeKind)

/-- The element that an element is a child of. The content of a template is no child of it. -/
def parentElement? (d : Document) (id : NodeId) : Option NodeId :=
  (d.parent? id).filter fun p => (d.element? p).isSome

/-- The elements around an element, the nearest first. `fuel` bounds their number. -/
def ancestors (d : Document) : Nat → NodeId → List NodeId
  | 0, _ => []
  | fuel + 1, id =>
    match parentElement? d id with
    | none => []
    | some p => p :: ancestors d fuel p

/-- An element and its siblings, in order. -/
def siblings (d : Document) (id : NodeId) : List NodeId :=
  match d.parent? id with
  | none => [id]
  | some p => (d.children p).filter fun c => (d.element? c).isSome

/-- The siblings before an element, the nearest first. -/
def earlierSiblings (d : Document) (id : NodeId) : List NodeId :=
  ((siblings d id).takeWhile (· != id)).reverse

/-- The elements to which an element may stand in a relation. -/
def Combinator.sources (k : Combinator) (d : Document) (id : NodeId) : List NodeId :=
  match k with
  | .child => (parentElement? d id).toList
  | .descendant => ancestors d d.nodes.size id
  | .next => (earlierSiblings d id).take 1
  | .later => earlierSiblings d id

/-- Whether two texts are equal under a rule for case. -/
def sameText (ignoreCase : Bool) (s t : List Char) : Bool :=
  if ignoreCase then Text.sameAscii s t else s == t

/-- Whether one text begins another, under a rule for case. -/
def beginsText (ignoreCase : Bool) (part whole : List Char) : Bool :=
  sameText ignoreCase part (whole.take part.length)

/-- Whether one text is part of another, under a rule for case. -/
def partOfText (ignoreCase : Bool) (part : List Char) : List Char → Bool
  | [] => part.isEmpty
  | c :: rest => beginsText ignoreCase part (c :: rest) || partOfText ignoreCase part rest

/-- The words of a text. -/
def words (s : List Char) : List (List Char) :=
  Text.splitOn ' ' (s.map fun c => if isBlank c then ' ' else c)

/-- Compares the value of an attribute with what is asked. -/
def Comparison.holds (k : Comparison) (ignoreCase : Bool) (value asked : List Char) : Bool :=
  match k with
  | .equal => sameText ignoreCase value asked
  | .word => !asked.isEmpty && (words value).any fun w => sameText ignoreCase w asked
  | .dashed =>
    sameText ignoreCase value asked ||
      (beginsText ignoreCase asked value && (value.drop asked.length).head? == some '-')
  | .start => !asked.isEmpty && beginsText ignoreCase asked value
  | .ending => !asked.isEmpty && beginsText ignoreCase asked.reverse value.reverse
  | .part => !asked.isEmpty && partOfText ignoreCase asked value

/-- The spelling of a name that counts for an element: names do not depend on case in the main
vocabulary. -/
def nameFor (e : Element) (name : String) : String :=
  if e.vocabulary = .html then lowered name else name

/-- Whether the case of a value is ignored for an element. -/
def CaseRule.ignores (rule : CaseRule) (e : Element) : Bool :=
  match rule with
  | .exact => false
  | .ignored => true
  | .ignoredInHtml => e.vocabulary == .html

/-- Whether an element passes a test of its attributes. -/
def AttributeTest.holds (t : AttributeTest) (e : Element) : Bool :=
  e.attributes.any fun a =>
    (t.anyVocabulary || !a.qualified) && a.name == nameFor e t.name &&
      match t.value with
      | none => true
      | some (k, asked, rule) => k.holds (rule.ignores e) a.value.toList asked.toList

/-- Whether a number is in a progression. Differences beyond what a selector can state are in
none. -/
def Progression.contains (p : Progression) (i : Int) : Bool :=
  let difference := i - p.offset
  if greatest < difference then false
  else if p.step = 0 then difference == 0
  else difference.tmod p.step == 0 && decide (0 ≤ difference.tdiv p.step)

/-- Whether two elements are of one type. -/
def sameType (d : Document) (x y : NodeId) : Bool :=
  match d.element? x, d.element? y with
  | some a, some b => a.vocabulary == b.vocabulary && a.name == b.name
  | _, _ => false

/-- The place of an element among its siblings, counted from 1. -/
def placeOf (d : Document) (fromEnd ofType : Bool) (id : NodeId) : Nat :=
  let all := siblings d id
  let all := if fromEnd then all.reverse else all
  let before := all.takeWhile (· != id)
  (if ofType then before.filter (sameType d id) else before).length + 1

/-- The classes of an element. -/
def classesOf (e : Element) : List String :=
  (e.attributes.filter fun a => a.name == "class").flatMap fun a =>
    (Text.splitOn ' ' (a.value.toList.map fun c => if Text.isBlank c then ' ' else c)).filterMap
      fun w => if w.isEmpty then none else some (String.ofList w)

/-- Whether a node has neither elements nor text. -/
def isEmptyNode (d : Document) (id : NodeId) : Bool :=
  (d.children id).all fun c => (d.element? c).isNone && !d.isText c

/-- Whether an element is the root of the document. -/
def isRoot (d : Document) (id : NodeId) : Bool := d.parent? id == some Document.root

mutual

/-- Whether a condition holds for an element. -/
def Condition.holds (d : Document) (anchor : Option NodeId) (id : NodeId) (e : Element) :
    Condition → Bool
  | .never => false
  | .element name => e.name == nameFor e name
  | .id name => e.id? == some name
  | .className name => (classesOf e).contains name
  | .attribute test => test.holds e
  | .nth places fromEnd ofType => places.contains (placeOf d fromEnd ofType id)
  | .root => isRoot d id
  | .empty => isEmptyNode d id
  | .oneOf options => options.hold d anchor id
  | .noneOf options => !options.hold d anchor id
  | .related options => d.elements.any fun other => options.hold d (some id) other

/-- Whether conditions hold for an element. -/
def Compound.hold (d : Document) (anchor : Option NodeId) (id : NodeId) (e : Element) :
    Compound → Bool
  | .nil => true
  | .cons condition rest => condition.holds d anchor id e && rest.hold d anchor id e

/-- Whether a complex selector describes a node. -/
def Complex.holds (d : Document) (anchor : Option NodeId) (id : NodeId) : Complex → Bool
  | .anchor => anchor == some id
  | .single compound =>
    match d.element? id with
    | none => false
    | some e => compound.hold d anchor id e
  | .link left k right =>
    match d.element? id with
    | none => false
    | some e =>
      right.hold d anchor id e && (k.sources d id).any fun source => left.holds d anchor source

/-- Whether one of several selectors describes a node. -/
def Alternatives.hold (d : Document) (anchor : Option NodeId) (id : NodeId) : Alternatives → Bool
  | .nil => false
  | .cons option rest => option.holds d anchor id || rest.hold d anchor id

end

/-- The elements that a selector describes, in the order in which they were made. -/
def Alternatives.select (s : Alternatives) (d : Document) : List NodeId :=
  d.elements.filter (s.hold d none)

/-- The first element that a selector describes. -/
def Alternatives.first? (s : Alternatives) (d : Document) : Option NodeId :=
  d.elements.find? (s.hold d none)

end SiteTech.Selector
