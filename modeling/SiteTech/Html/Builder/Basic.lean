import SiteTech.Html.Document

namespace SiteTech.Html

/-- The parts of a document, by which the meaning of a piece of markup differs. -/
inductive Mode where
  | initial
  | beforeHtml
  | beforeHead
  | inHead
  | afterHead
  | inBody
  | text
  | inTable
  | inTableText
  | inCaption
  | inColumnGroup
  | inTableBody
  | inRow
  | inCell
  | inSelect
  | inSelectInTable
  | inTemplate
  | afterBody
  | inFrameset
  | afterFrameset
  | afterAfterBody
  | afterAfterFrameset
deriving DecidableEq, Repr, Inhabited

/-- What the builder is given: blanks, other text, NUL, tags, comments and the end. -/
inductive Event where
  | blanks (text : String)
  | words (text : String)
  | nul
  | startTag (tag : Tag)
  | endTag (name : String)
  | comment
  | finish
deriving DecidableEq, Repr, Inhabited

/-- An entry in the list of formatting: an element with its tag, or a mark that hides what is behind
it. -/
inductive Formatting where
  | mark
  | element (id : NodeId) (tag : Tag)
deriving DecidableEq, Repr, Inhabited

/-- The state of building a document. The lists of open elements, of formatting and of template
modes have the latest member first. -/
structure Builder where
  document : Document
  opened : List NodeId
  formatting : List Formatting
  mode : Mode
  savedMode : Mode
  templateModes : List Mode
  head : Option NodeId
  form : Option NodeId
  framesetAllowed : Bool
  oldStyle : Bool
  fostering : Bool
  skipsLineFeed : Bool
  tableText : List Event
  content : Content
deriving Inhabited

/-- What has become of an event: it is dealt with, or it has to be dealt with again in the mode that
holds now. -/
inductive Outcome where
  | done (b : Builder)
  | again (b : Builder)

/-- Applies a change to the state of an outcome. -/
def Outcome.map (f : Builder → Builder) : Outcome → Outcome
  | .done b => .done (f b)
  | .again b => .again (f b)

namespace Builder

/-- The state before any markup. -/
def empty : Builder :=
  { document := Document.empty
    opened := []
    formatting := []
    mode := .initial
    savedMode := .initial
    templateModes := []
    head := none
    form := none
    framesetAllowed := true
    oldStyle := false
    fostering := false
    skipsLineFeed := false
    tableText := []
    content := .markup }

/-- The element of a node; one that matches nothing if it is none. -/
def elementAt (b : Builder) (id : NodeId) : Element := (b.document.element? id).getD ⟨.html, "", []⟩

/-- Whether a node is one of the named elements of the main vocabulary. -/
def isOneOf (b : Builder) (names : List String) (id : NodeId) : Bool :=
  (b.elementAt id).isOneOf names

/-- The innermost open element. -/
def current (b : Builder) : NodeId := b.opened.headD Document.root

/-- Whether the innermost open element is one of the named. -/
def currentIs (b : Builder) (names : List String) : Bool :=
  match b.opened with
  | id :: _ => b.isOneOf names id
  | [] => false

/-- Whether one of the named elements is open. -/
def hasOpen (b : Builder) (names : List String) : Bool := b.opened.any (b.isOneOf names)

/-- Whether a template is open. -/
def inTemplate (b : Builder) : Bool := b.hasOpen ["template"]

/-- The outermost open element. -/
def outermost (b : Builder) : NodeId := b.opened.getLastD Document.root

/-- The body, if it is open in its usual place. -/
def body? (b : Builder) : Option NodeId :=
  match b.opened.reverse with
  | _ :: id :: _ => if b.isOneOf ["body"] id then some id else none
  | _ => none

/-- Closes the innermost open element. -/
def pop (b : Builder) : Builder := { b with opened := b.opened.drop 1 }

/-- Opens an element. -/
def push (b : Builder) (id : NodeId) : Builder := { b with opened := id :: b.opened }

/-- Closes elements as long as the innermost passes a test. -/
def popWhile (b : Builder) (p : NodeId → Bool) : Builder :=
  { b with opened := b.opened.dropWhile p }

/-- Closes elements up to one of the named, and that one. -/
def popThrough (b : Builder) (names : List String) : Builder :=
  (b.popWhile fun id => !b.isOneOf names id).pop

/-- Closes elements up to one of the named, which stays open. -/
def popTo (b : Builder) (names : List String) : Builder :=
  b.popWhile fun id => !b.isOneOf names id

/-- Strikes an element from the open ones. -/
def removeOpen (b : Builder) (id : NodeId) : Builder :=
  { b with opened := b.opened.filter (· != id) }

/-- The elements of mathematics inside which text is read as in the main vocabulary. -/
def isMathText (e : Element) : Bool :=
  e.vocabulary == .math && ["mi", "mo", "mn", "ms", "mtext"].contains e.name

/-- The elements of graphics inside which markup is read as in the main vocabulary. -/
def isGraphicsHtml (e : Element) : Bool :=
  e.vocabulary == .svg && ["foreignObject", "desc", "title"].contains e.name

/-- The elements that a search for an open element does not look behind. -/
def defaultScope (e : Element) : Bool :=
  e.isOneOf ["applet", "caption", "html", "table", "td", "th", "marquee", "object", "template"] ||
    isMathText e || isGraphicsHtml e

/-- The scope of list items. -/
def listScope (e : Element) : Bool := defaultScope e || e.isOneOf ["ol", "ul"]

/-- The scope of paragraphs. -/
def buttonScope (e : Element) : Bool := defaultScope e || e.isOneOf ["button"]

/-- The scope of the parts of tables. -/
def tableScope (e : Element) : Bool := e.isOneOf ["html", "table", "template"]

/-- The scope of choices: nothing but options is looked behind. -/
def selectScope (e : Element) : Bool := !e.isOneOf ["optgroup", "option"]

/-- Whether a node that passes a test is found among nodes before one that stops the search. -/
def foundBefore (b : Builder) (stops : Element → Bool) (target : NodeId → Bool) :
    List NodeId → Bool
  | [] => false
  | id :: rest =>
    if target id then true
    else if stops (b.elementAt id) then false
    else b.foundBefore stops target rest

/-- Whether one of the named elements is open within a scope. -/
def inScope (b : Builder) (stops : Element → Bool) (names : List String) : Bool :=
  b.foundBefore stops (b.isOneOf names) b.opened

/-- Whether a node is open within the default scope. -/
def nodeInScope (b : Builder) (id : NodeId) : Bool :=
  b.foundBefore defaultScope (· == id) b.opened

/-- Elements whose end may be left out. -/
def impliedEnds : List String :=
  ["dd", "dt", "li", "option", "optgroup", "p", "rb", "rp", "rt", "rtc"]

/-- Elements whose end may be left out at the end of a template. -/
def allImpliedEnds : List String :=
  impliedEnds ++ ["caption", "colgroup", "tbody", "td", "tfoot", "th", "thead", "tr"]

/-- Headings. -/
def headings : List String := ["h1", "h2", "h3", "h4", "h5", "h6"]

/-- Elements that the end of an ordinary element does not reach across. -/
def specials : List String :=
  ["address", "applet", "area", "article", "aside", "base", "basefont", "bgsound", "blockquote",
   "body", "br", "button", "caption", "center", "col", "colgroup", "dd", "details", "dir", "div",
   "dl", "dt", "embed", "fieldset", "figcaption", "figure", "footer", "form", "frame", "frameset",
   "h1", "h2", "h3", "h4", "h5", "h6", "head", "header", "hgroup", "hr", "html", "iframe", "img",
   "input", "isindex", "li", "link", "listing", "main", "marquee", "menu", "meta", "nav", "noembed",
   "noframes", "noscript", "object", "ol", "p", "param", "plaintext", "pre", "script", "section",
   "select", "source", "style", "summary", "table", "tbody", "td", "template", "textarea", "tfoot",
   "th", "thead", "title", "tr", "track", "ul", "wbr", "xmp"]

/-- The parts of a table in which text has no place. -/
def tableParts : List String := ["table", "tbody", "tfoot", "thead", "tr"]

/-- Closes the elements whose end may be left out. -/
def closeImplied (b : Builder) (names : List String) : Builder := b.popWhile (b.isOneOf names)

/-- Closes the elements whose end may be left out, except those of one name. -/
def closeImpliedExcept (b : Builder) (name : String) : Builder :=
  b.closeImplied (impliedEnds.filter (· != name))

/-- Closes a paragraph. -/
def closeParagraph (b : Builder) : Builder := (b.closeImpliedExcept "p").popThrough ["p"]

/-- Closes a paragraph if one is open in its scope. -/
def endParagraph (b : Builder) : Builder :=
  if b.inScope buttonScope ["p"] then b.closeParagraph else b

/-- Where a node is put: at the end of another, or just before one. -/
inductive Place where
  | last (parent : NodeId)
  | before (sibling : NodeId)

/-- The node that holds the content of a template. -/
def contentOf (b : Builder) (template : NodeId) : NodeId :=
  (b.document.children template).headD template

/-- The place for what has no place in a table: before the table. -/
def fosterPlace (b : Builder) : List NodeId → Place
  | [] => .last b.outermost
  | id :: rest =>
    if b.isOneOf ["template"] id then .last (b.contentOf id)
    else if b.isOneOf ["table"] id then
      if (b.document.parent? id).isSome then .before id else .last (rest.headD Document.root)
    else b.fosterPlace rest

/-- The place for something that belongs into an element. -/
def placeIn (b : Builder) (target : NodeId) : Place :=
  if b.fostering && b.isOneOf tableParts target then b.fosterPlace b.opened
  else if b.isOneOf ["template"] target then .last (b.contentOf target)
  else .last target

/-- Puts a node at a place. -/
def putAt (b : Builder) (place : Place) (id : NodeId) : Builder :=
  match place with
  | .last parent => { b with document := b.document.append parent id }
  | .before sibling => { b with document := b.document.insertBefore sibling id }

/-- Adds text to the innermost open element. -/
def addText (b : Builder) (text : String) : Builder :=
  match b.placeIn b.current with
  | .last parent => { b with document := b.document.appendText parent text }
  | .before sibling => { b with document := b.document.insertTextBefore sibling text }

/-- Makes an element. A template has a node for its content. -/
def makeElement (b : Builder) (e : Element) : Builder × NodeId :=
  let (d, id) := b.document.make (.element e)
  if e.isOneOf ["template"] then
    let (d, content) := d.make .content
    ({ b with document := d.append id content }, id)
  else ({ b with document := d }, id)

/-- Makes an element and puts it into the innermost open one, without opening it. -/
def insertClosed (b : Builder) (e : Element) : Builder × NodeId :=
  let (b, id) := b.makeElement e
  (b.putAt (b.placeIn b.current) id, id)

/-- Makes an element, puts it into the innermost open one and opens it. -/
def insertElement (b : Builder) (e : Element) : Builder × NodeId :=
  let (b, id) := b.insertClosed e
  (b.push id, id)

/-- The element of a tag of the main vocabulary. -/
def elementOf (t : Tag) : Element := ⟨.html, t.name, t.attributes⟩

/-- Opens the element of a tag. -/
def openTag (b : Builder) (t : Tag) : Builder := (b.insertElement (elementOf t)).1

/-- Adds the element of a tag that has no content. -/
def addVoid (b : Builder) (t : Tag) : Builder := (b.insertClosed (elementOf t)).1

/-- Opens an element that is not written. -/
def openImplied (b : Builder) (name : String) : Builder := (b.insertElement ⟨.html, name, []⟩).1

/-- Makes the root element and opens it. -/
def openRoot (b : Builder) (attributes : List Attribute) : Builder :=
  let (b, id) := b.makeElement ⟨.html, "html", attributes⟩
  { b with document := b.document.append Document.root id }.push id

/-- Gives an element attributes that it does not have yet. -/
def addAttributes (b : Builder) (id : NodeId) (more : List Attribute) : Builder :=
  { b with
    document := b.document.modify id fun n =>
      match n.kind with
      | .element e => { n with kind := .element (e.addAttributes more) }
      | _ => n }

/-- Opens an element whose content is raw text. -/
def openRaw (b : Builder) (t : Tag) (kind : RawKind) : Builder :=
  { b.openTag t with savedMode := b.mode, mode := .text, content := .raw kind t.name }

/-- Moves to another mode. -/
def withMode (b : Builder) (mode : Mode) : Builder := { b with mode := mode }

/-- The mode that the open elements ask for. -/
def modeFor (b : Builder) : List NodeId → Mode
  | [] => .inBody
  | id :: rest =>
    let e := b.elementAt id
    let last := rest.isEmpty
    if e.vocabulary ≠ .html then b.modeFor rest
    else if e.name = "select" then
      match rest.find? (b.isOneOf ["template", "table"]) with
      | some ancestor => if b.isOneOf ["table"] ancestor then .inSelectInTable else .inSelect
      | none => .inSelect
    else if (e.name = "td" ∨ e.name = "th") ∧ ¬ last then .inCell
    else if e.name = "tr" then .inRow
    else if e.name = "tbody" ∨ e.name = "thead" ∨ e.name = "tfoot" then .inTableBody
    else if e.name = "caption" then .inCaption
    else if e.name = "colgroup" then .inColumnGroup
    else if e.name = "table" then .inTable
    else if e.name = "template" then b.templateModes.headD .inBody
    else if e.name = "head" ∧ ¬ last then .inHead
    else if e.name = "body" then .inBody
    else if e.name = "frameset" then .inFrameset
    else if e.name = "html" then if b.head.isNone then .beforeHead else .afterHead
    else b.modeFor rest

/-- Moves to the mode that the open elements ask for. -/
def resetMode (b : Builder) : Builder := b.withMode (b.modeFor b.opened)

end Builder

end SiteTech.Html
