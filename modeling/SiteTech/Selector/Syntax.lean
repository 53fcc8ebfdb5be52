namespace SiteTech.Selector

/-- How one element stands to another: as its child, a descendant, the next sibling or a later
one. -/
inductive Combinator where
  | child
  | descendant
  | next
  | later
deriving DecidableEq, Repr

/-- How the value of an attribute is compared. -/
inductive Comparison where
  | equal
  | word
  | dashed
  | start
  | ending
  | part
deriving DecidableEq, Repr

/-- Whether the case of ASCII letters counts in a value; for some attributes it only counts outside
the main vocabulary. -/
inductive CaseRule where
  | exact
  | ignored
  | ignoredInHtml
deriving DecidableEq, Repr

/-- What is asked of an attribute. `anyVocabulary` says that it may be qualified. -/
structure AttributeTest where
  name : String
  anyVocabulary : Bool
  value : Option (Comparison × String × CaseRule)
deriving DecidableEq, Repr

/-- A place in a sequence: `step * n + offset` for some natural number `n`. -/
structure Progression where
  step : Int
  offset : Int
deriving DecidableEq, Repr

mutual

/-- A single condition on an element. -/
inductive Condition where
  | never
  | element (name : String)
  | id (name : String)
  | className (name : String)
  | attribute (test : AttributeTest)
  | nth (places : Progression) (fromEnd ofType : Bool)
  | root
  | empty
  | oneOf (options : Alternatives)
  | noneOf (options : Alternatives)
  | related (options : Alternatives)

/-- Conditions on one element. -/
inductive Compound where
  | nil
  | cons (condition : Condition) (rest : Compound)

/-- Conditions on an element and on elements that it stands to. The anchor is the element from which
a relation starts. -/
inductive Complex where
  | anchor
  | single (compound : Compound)
  | link (left : Complex) (combinator : Combinator) (right : Compound)

/-- Alternatives of which one has to hold. -/
inductive Alternatives where
  | nil
  | cons (option : Complex) (rest : Alternatives)

end

/-- The conditions of a list. -/
def Compound.ofList : List Condition → Compound
  | [] => .nil
  | c :: rest => .cons c (Compound.ofList rest)

/-- The alternatives of a list. -/
def Alternatives.ofList : List Complex → Alternatives
  | [] => .nil
  | c :: rest => .cons c (Alternatives.ofList rest)

end SiteTech.Selector
