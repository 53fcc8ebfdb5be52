import SiteTech.Selector.Syntax
import SiteTech.Selector.Token

namespace SiteTech.Selector

/-- Drops blanks in front. -/
def skipBlanks : List Value → List Value
  | .token .blank :: rest => skipBlanks rest
  | s => s

/-- A name in lower case. -/
def lowered (name : String) : String := String.ofList (Text.asciiLower name.toList)

/-- Attributes whose values do not depend on case in the main vocabulary. -/
def caselessAttributes : List String :=
  ["accept", "accept-charset", "align", "alink", "axis", "bgcolor", "charset", "checked", "clear",
   "codetype", "color", "compact", "declare", "defer", "dir", "direction", "disabled", "enctype",
   "face", "frame", "hreflang", "http-equiv", "lang", "language", "link", "media", "method",
   "multiple", "nohref", "noresize", "noshade", "nowrap", "readonly", "rel", "rev", "rules",
   "scope", "scrolling", "selected", "shape", "target", "text", "type", "valign", "valuetype",
   "vlink"]

/-- Reads the name of an attribute; the flag says that it may be in any vocabulary. -/
def readAttributeName : List Value → Option (String × Bool × List Value)
  | .token (.ident _) :: .token (.delimiter '|') :: _ => none
  | .token (.ident name) :: rest => some (name, false, rest)
  | .token (.delimiter '*') :: .token (.delimiter '|') :: .token (.ident name) :: rest =>
    some (name, true, rest)
  | .token (.delimiter '|') :: .token (.ident name) :: rest => some (name, false, rest)
  | _ => none

/-- The comparison of a token. -/
def comparisonOf : Token → Option Comparison
  | .delimiter '=' => some .equal
  | .matcher '~' => some .word
  | .matcher '|' => some .dashed
  | .matcher '^' => some .start
  | .matcher '$' => some .ending
  | .matcher '*' => some .part
  | _ => none

/-- The value of a token. -/
def valueOf : Token → Option String
  | .ident name => some name
  | .quoted text => some text
  | _ => none

/-- Reads how case counts, which is all that may follow a value. -/
def readCaseRule (name : String) (anyVocabulary : Bool) (s : List Value) : Option CaseRule :=
  match skipBlanks s with
  | [] =>
    some (if !anyVocabulary && caselessAttributes.contains (lowered name) then .ignoredInHtml
      else .exact)
  | .token (.ident flag) :: rest =>
    if !(skipBlanks rest).isEmpty then none
    else if lowered flag = "i" then some .ignored
    else if lowered flag = "s" then some .exact
    else none
  | _ => none

/-- Reads what stands in square brackets. -/
def readAttribute (content : List Value) : Option AttributeTest :=
  match readAttributeName (skipBlanks content) with
  | none => none
  | some (name, anyVocabulary, rest) =>
    match skipBlanks rest with
    | [] => some ⟨name, anyVocabulary, none⟩
    | .token operator :: rest =>
      match comparisonOf operator, skipBlanks rest with
      | some comparison, .token value :: rest =>
        match valueOf value, readCaseRule name anyVocabulary rest with
        | some value, some rule => some ⟨name, anyVocabulary, some (comparison, value, rule)⟩
        | _, _ => none
      | _, _ => none
    | _ => none

/-- Reads a number without a sign, which is all that is left. -/
def readUnsigned (step sign : Int) (s : List Value) : Option (Progression × List Value) :=
  match skipBlanks s with
  | .token (.number false (some n)) :: rest => some (⟨step, sign * n⟩, rest)
  | _ => none

/-- Reads the offset of a progression, if there is one. -/
def readOffset (step : Int) (s : List Value) : Option (Progression × List Value) :=
  match skipBlanks s with
  | .token (.delimiter '+') :: rest => readUnsigned step 1 rest
  | .token (.delimiter '-') :: rest => readUnsigned step (-1) rest
  | .token (.number true (some n)) :: rest => some (⟨step, n⟩, rest)
  | _ => some (⟨step, 0⟩, s)

/-- Reads a progression from the name that follows the number of its step. -/
def readStep (step : Int) (name : String) (s : List Value) : Option (Progression × List Value) :=
  match (lowered name).toList with
  | ['n'] => readOffset step s
  | ['n', '-'] => readUnsigned step (-1) s
  | 'n' :: '-' :: digits =>
    (Text.readDigits 0 digits).map fun n => (⟨step, clamp (-(n : Int))⟩, s)
  | _ => none

/-- Reads a progression. -/
def readProgression (s : List Value) : Option (Progression × List Value) :=
  match skipBlanks s with
  | .token (.number _ (some n)) :: rest => some (⟨0, n⟩, rest)
  | .token (.dimension (some n) unit) :: rest => readStep n unit rest
  | .token (.ident name) :: rest =>
    if lowered name = "even" then some (⟨2, 0⟩, rest)
    else if lowered name = "odd" then some (⟨2, 1⟩, rest)
    else
      match name.toList with
      | '-' :: name => readStep (-1) (String.ofList name) rest
      | _ => readStep 1 name rest
  | .token (.delimiter '+') :: .token (.ident name) :: rest => readStep 1 name rest
  | _ => none

/-- Reads what stands in the parentheses of a condition on places. -/
def readPlaces (fromEnd ofType : Bool) (content : List Value) : Option Condition :=
  match readProgression content with
  | some (places, rest) =>
    if (skipBlanks rest).isEmpty then some (.nth places fromEnd ofType) else none
  | none => none

/-- The conditions of a name after a colon. -/
def namedConditions (name : String) : Option (List Condition) :=
  let first : Progression := ⟨0, 1⟩
  match lowered name with
  | "first-child" => some [.nth first false false]
  | "last-child" => some [.nth first true false]
  | "only-child" => some [.nth first false false, .nth first true false]
  | "first-of-type" => some [.nth first false true]
  | "last-of-type" => some [.nth first true true]
  | "only-of-type" => some [.nth first false true, .nth first true true]
  | "root" => some [.root]
  | "scope" => some [.root]
  | "empty" => some [.empty]
  | _ => none

/-- How alternatives are read: whether a faulty one is passed over, whether they start with a
relation, and whether relations are refused in them. -/
structure ListStyle where
  forgiving : Bool
  relative : Bool
  insideRelation : Bool

/-- Reads the condition of a function after a colon; `list` reads alternatives. -/
def readFunction (list : ListStyle → List Value → Option Alternatives) (insideRelation : Bool)
    (name : String) (content : List Value) : Option Condition :=
  match lowered name with
  | "nth-child" => readPlaces false false content
  | "nth-last-child" => readPlaces true false content
  | "nth-of-type" => readPlaces false true content
  | "nth-last-of-type" => readPlaces true true content
  | "is" => (list ⟨true, false, insideRelation⟩ content).map .oneOf
  | "where" => (list ⟨true, false, insideRelation⟩ content).map .oneOf
  | "not" => (list ⟨false, false, insideRelation⟩ content).map .noneOf
  | "has" => if insideRelation then none else (list ⟨false, true, true⟩ content).map .related
  | _ => none

/-- Reads the conditions that may follow the name of an element, and what follows them. -/
def readConditions (function : String → List Value → Option Condition) :
    List Value → Option (List Condition × List Value)
  | .token (.idHash name) :: rest =>
    (readConditions function rest).map fun (l, s) => (.id name :: l, s)
  | .token (.delimiter '.') :: .token (.ident name) :: rest =>
    (readConditions function rest).map fun (l, s) => (.className name :: l, s)
  | .token (.delimiter '.') :: _ => none
  | .block .square content :: rest =>
    match readAttribute content, readConditions function rest with
    | some test, some (l, s) => some (.attribute test :: l, s)
    | _, _ => none
  | .token .colon :: .token (.ident name) :: rest =>
    match namedConditions name, readConditions function rest with
    | some conditions, some (l, s) => some (conditions ++ l, s)
    | _, _ => none
  | .token .colon :: .block (.function name) content :: rest =>
    match function name content, readConditions function rest with
    | some condition, some (l, s) => some (condition :: l, s)
    | _, _ => none
  | .token .colon :: _ => none
  | s => some ([], s)

/-- Reads the name of an element, if there is one: the conditions that it makes, `none` in the first
place if there is no name, and what follows. -/
def readElementName : List Value → Option (Option (List Condition) × List Value)
  | .token (.ident _) :: .token (.delimiter '|') :: _ => none
  | .token (.ident name) :: rest => some (some [.element name], rest)
  | .token (.delimiter '*') :: .token (.delimiter '|') :: .token (.ident name) :: rest =>
    some (some [.element name], rest)
  | .token (.delimiter '*') :: .token (.delimiter '|') :: .token (.delimiter '*') :: rest =>
    some (some [], rest)
  | .token (.delimiter '*') :: .token (.delimiter '|') :: _ => none
  | .token (.delimiter '*') :: rest => some (some [], rest)
  | .token (.delimiter '|') :: .token (.ident _) :: rest => some (some [.never], rest)
  | .token (.delimiter '|') :: .token (.delimiter '*') :: rest => some (some [.never], rest)
  | .token (.delimiter '|') :: _ => none
  | s => some (none, s)

/-- Reads the conditions on one element, of which there is at least one part. -/
def readCompound (function : String → List Value → Option Condition) (s : List Value) :
    Option (Compound × List Value) :=
  match readElementName (skipBlanks s) with
  | none => none
  | some (name, rest) =>
    match readConditions function rest with
    | none => none
    | some (conditions, after) =>
      if name.isNone && conditions.isEmpty then none
      else some (Compound.ofList (name.getD [] ++ conditions), after)

/-- The combinator of a token. -/
def combinatorOf : Value → Option Combinator
  | .token (.delimiter '>') => some .child
  | .token (.delimiter '+') => some .next
  | .token (.delimiter '~') => some .later
  | _ => none

/-- Reads a combinator. Blanks alone are one as well, unless nothing follows them. -/
def readCombinator (s : List Value) : Option (Combinator × List Value) :=
  let rest := skipBlanks s
  match rest with
  | [] => none
  | v :: after =>
    match combinatorOf v with
    | some k => some (k, after)
    | none => if rest.length < s.length then some (.descendant, rest) else none

/-- Reads on after a complex selector. Every round takes a value, so that `fuel` is enough if it is
not less than their number. -/
def readChain (compound : List Value → Option (Compound × List Value)) :
    Nat → Complex → List Value → Option Complex
  | 0, _, _ => none
  | fuel + 1, left, s =>
    match readCombinator s with
    | none => if (skipBlanks s).isEmpty then some left else none
    | some (k, rest) =>
      match compound rest with
      | none => none
      | some (right, after) => readChain compound fuel (.link left k right) after

/-- Reads a complex selector, to its end. -/
def readComplex (compound : List Value → Option (Compound × List Value)) (relative : Bool)
    (s : List Value) : Option Complex :=
  let s := skipBlanks s
  if relative then
    let (k, rest) := (readCombinator s).getD (.descendant, s)
    match compound rest with
    | none => none
    | some (right, after) => readChain compound (s.length + 1) (.link .anchor k right) after
  else
    match compound s with
    | none => none
    | some (first, after) => readChain compound (s.length + 1) (.single first) after

/-- Whether a value is a comma. -/
def isComma : Value → Bool
  | .token .comma => true
  | _ => false

/-- The values between commas. -/
def splitCommas : List Value → List (List Value)
  | [] => [[]]
  | v :: rest => if isComma v then [] :: splitCommas rest else Text.consPiece v (splitCommas rest)

/-- Whether a faulty token is among values, in brackets or not. `fuel` bounds the depth. -/
def isFaulty : Nat → Value → Bool
  | _, .token .bad => true
  | _, .token _ => false
  | 0, .block _ _ => false
  | fuel + 1, .block _ content => content.any (isFaulty fuel)

/-- The selector that never holds. -/
def impossible : Complex := .single (.cons .never .nil)

/-- Reads alternatives. `fuel` bounds how deep they are nested. -/
def readAlternatives : Nat → ListStyle → List Value → Option Alternatives
  | 0, _, _ => none
  | fuel + 1, style, s =>
    let compound := readCompound (readFunction (readAlternatives fuel) style.insideRelation)
    let option (values : List Value) : Option Complex :=
      match readComplex compound style.relative values with
      | some c => some c
      | none =>
        if style.forgiving && !values.any (isFaulty fuel) then some impossible else none
    ((splitCommas s).mapM option).map Alternatives.ofList

/-- Reads a selector; `none` if the text is none. Only inside `:is()` and `:where()` an alternative that
is none may stand, and never holds. -/
def ofText? (text : String) : Option Alternatives :=
  readAlternatives (text.length + 1) ⟨false, false, false⟩ (valuesOf text.toList)

end SiteTech.Selector
