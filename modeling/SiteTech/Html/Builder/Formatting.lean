import SiteTech.Html.Builder.Basic

namespace SiteTech.Html.Builder

/-- Marks the list of formatting. -/
def addMark (b : Builder) : Builder := { b with formatting := .mark :: b.formatting }

/-- Drops the formatting up to the latest mark, and the mark. -/
def dropToMark (b : Builder) : Builder :=
  { b with formatting := (b.formatting.dropWhile (· != .mark)).drop 1 }

/-- Whether an entry is for a node. -/
def entryIs (id : NodeId) : Formatting → Bool
  | .mark => false
  | .element other _ => other == id

/-- Strikes a node from the list of formatting. -/
def removeFormatting (b : Builder) (id : NodeId) : Builder :=
  { b with formatting := b.formatting.filter fun f => !entryIs id f }

/-- The formatting in force since the latest mark, the latest first. -/
def sinceMark (b : Builder) : List Formatting := b.formatting.takeWhile (· != .mark)

/-- The latest formatting of a name since the latest mark. -/
def findFormatting? (name : String) : List Formatting → Option (NodeId × Tag)
  | [] => none
  | .mark :: _ => none
  | .element id tag :: rest => if tag.name = name then some (id, tag) else findFormatting? name rest

/-- Whether two lists of attributes are equal up to their order. -/
def sameAttributes (xs ys : List Attribute) : Bool :=
  xs.length == ys.length && xs.all ys.contains

/-- Whether an entry has a tag like a given one. -/
def entryLike (t : Tag) : Formatting → Bool
  | .mark => false
  | .element _ other => other.name == t.name && sameAttributes other.attributes t.attributes

/-- Opens a formatting element. At most three like it are kept in the list of formatting: a fourth
takes the place of the first. -/
def openFormatting (b : Builder) (t : Tag) : Builder :=
  let alike := b.sinceMark.filter (entryLike t)
  let b :=
    match alike.drop 2 |>.getLast? with
    | some (.element id _) => b.removeFormatting id
    | _ => b
  let (b, id) := b.insertElement (elementOf t)
  { b with formatting := .element id t :: b.formatting }

/-- Opens again the elements of a list of formatting, the earliest first. -/
def reopen (b : Builder) : List Formatting → Builder × List Formatting
  | [] => (b, [])
  | .mark :: rest =>
    let (b, done) := b.reopen rest
    (b, .mark :: done)
  | .element _ tag :: rest =>
    let (b, id) := b.insertElement (elementOf tag)
    let (b, done) := b.reopen rest
    (b, .element id tag :: done)

/-- Whether formatting has to be opened again. -/
def isClosed (b : Builder) : Formatting → Bool
  | .mark => false
  | .element id _ => !b.opened.contains id

/-- Opens again the formatting that is in force but not open. -/
def reconstruct (b : Builder) : Builder :=
  let closed := b.formatting.takeWhile b.isClosed
  let (b', entries) := b.reopen closed.reverse
  { b' with formatting := entries.reverse ++ b.formatting.drop closed.length }

/-- The open elements from a node on outwards, without those inside it. -/
def fromNode (p : NodeId → Bool) (opened : List NodeId) : List NodeId := opened.dropWhile (!p ·)

/-- Whether an ordinary element can be closed here: it is open, and no special element is inside it. -/
def canClose (b : Builder) (name : String) : List NodeId → Bool
  | [] => false
  | id :: rest =>
    if b.isOneOf [name] id then true
    else if b.isOneOf specials id then false
    else b.canClose name rest

/-- The end of an ordinary element. -/
def closeOrdinary (b : Builder) (name : String) : Builder :=
  if b.canClose name b.opened then
    let target := (b.opened.dropWhile fun id => !b.isOneOf [name] id).headD Document.root
    { b with opened := (b.closeImpliedExcept name).opened.dropWhile (· != target) |>.drop 1 }
  else b

/-- Replaces a node in a list. -/
def replaceNode (old new : NodeId) (l : List NodeId) : List NodeId :=
  l.map fun id => if id = old then new else id

/-- Replaces the entry of a node in the list of formatting. -/
def replaceFormatting (old : NodeId) (new : Formatting) (l : List Formatting) : List Formatting :=
  l.map fun f => if entryIs old f then new else f

/-- Puts an entry just after the one of a node; later entries come first in the list. -/
def insertAfter (node : NodeId) (new : Formatting) (l : List Formatting) : List Formatting :=
  l.flatMap fun f => if entryIs node f then [new, f] else [f]

/-- The tag of a node in the list of formatting. -/
def formattingTag? (b : Builder) (id : NodeId) : Option Tag :=
  b.formatting.findSome? fun f =>
    match f with
    | .mark => none
    | .element other tag => if other = id then some tag else none

/-- Where the copy of a split element goes in the list of formatting: in the place of the element, or
just after another one. -/
inductive Bookmark where
  | inPlace
  | after (id : NodeId)

/-- Splits the elements between a block and the formatting element around it: those in the list of
formatting are copied, and the copies take the block with them; the others are closed. `count` tells
how many have been passed; from the fourth on none is copied. -/
def splitBetween (block : NodeId) : List NodeId → Nat → Builder → NodeId → Bookmark →
    Builder × NodeId × Bookmark
  | [], _, b, last, bookmark => (b, last, bookmark)
  | node :: rest, count, b, last, bookmark =>
    match if count < 3 then b.formattingTag? node else none with
    | none =>
      splitBetween block rest (count + 1) ((b.removeFormatting node).removeOpen node) last bookmark
    | some tag =>
      let (b, copy) := b.makeElement (elementOf tag)
      let b :=
        { b with
          opened := replaceNode node copy b.opened
          formatting := replaceFormatting node (.element copy tag) b.formatting }
      let bookmark := if last = block then .after copy else bookmark
      splitBetween block rest (count + 1)
        { b with document := b.document.append copy last } copy bookmark

/-- Puts a copy of a formatting element around the content of a block that it overlaps. -/
def wrapBlock (b : Builder) (element : NodeId) (tag : Tag) (block : NodeId) (bookmark : Bookmark) :
    Builder :=
  let (b, copy) := b.makeElement (elementOf tag)
  let document := (b.document.moveChildren block copy).append block copy
  let formatting :=
    match bookmark with
    | .inPlace => replaceFormatting element (.element copy tag) b.formatting
    | .after id =>
      (insertAfter id (.element copy tag) b.formatting).filter fun f => !entryIs element f
  let opened := (b.opened.filter (· != element)).flatMap fun id =>
    if id = block then [copy, id] else [id]
  { b with document := document, formatting := formatting, opened := opened }

/-- Deals once with the end of a formatting element; `none` when there is nothing more to do, with
the state at the end. -/
def splitOnce (b : Builder) (name : String) : Builder × Bool :=
  match findFormatting? name b.formatting with
  | none => (b.closeOrdinary name, false)
  | some (element, tag) =>
    if !b.opened.contains element then (b.removeFormatting element, false)
    else if !b.nodeInScope element then (b, false)
    else
      let inside := b.opened.takeWhile (· != element)
      match inside.reverse.find? (b.isOneOf specials) with
      | none =>
        ({ b.removeFormatting element with opened := (fromNode (· == element) b.opened).drop 1 },
          false)
      | some block =>
        let ancestor := ((fromNode (· == element) b.opened).drop 1).headD Document.root
        let between := (fromNode (· == block) inside).drop 1
        let (b, last, bookmark) := splitBetween block between 0 b block .inPlace
        let b := { b with document := b.document.detach last }
        let b := b.putAt (b.placeIn ancestor) last
        (b.wrapBlock element tag block bookmark, true)

/-- Deals with the end of a formatting element, a bounded number of times. -/
def splitRepeatedly (name : String) : Nat → Builder → Builder
  | 0, b => b
  | n + 1, b =>
    match b.splitOnce name with
    | (b, false) => b
    | (b, true) => splitRepeatedly name n b

/-- The end of a formatting element. -/
def closeFormatting (b : Builder) (name : String) : Builder :=
  if b.currentIs [name] && !b.formatting.any (entryIs b.current) then b.pop
  else splitRepeatedly name 8 b

/-- Closes a link that is open, since links do not nest. -/
def closeLink (b : Builder) : Builder :=
  match findFormatting? "a" b.formatting with
  | none => b
  | some (id, _) => ((b.closeFormatting "a").removeFormatting id).removeOpen id

end SiteTech.Html.Builder
