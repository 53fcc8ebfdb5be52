import SiteTech.Html.Builder.Foreign
import SiteTech.Html.Builder.Head

namespace SiteTech.Html.Builder

/-- Blocks that end a paragraph. -/
def blocks : List String :=
  ["address", "article", "aside", "blockquote", "center", "details", "dialog", "dir", "div", "dl",
   "fieldset", "figcaption", "figure", "footer", "header", "hgroup", "main", "menu", "nav", "ol",
   "p", "search", "section", "summary", "ul"]

/-- Elements whose end tag closes what is inside them. -/
def closedBlocks : List String :=
  ["address", "article", "aside", "blockquote", "button", "center", "details", "dialog", "dir",
   "div", "dl", "fieldset", "figcaption", "figure", "footer", "header", "hgroup", "listing", "main",
   "menu", "nav", "ol", "pre", "search", "section", "summary", "ul"]

/-- Formatting elements other than links. -/
def formats : List String :=
  ["b", "big", "code", "em", "font", "i", "s", "small", "strike", "strong", "tt", "u"]

/-- Parts of a table, which have no place outside of one. -/
def strayTableParts : List String :=
  ["caption", "col", "colgroup", "frame", "head", "tbody", "td", "tfoot", "th", "thead", "tr"]

/-- The modes in which a choice is inside a table. -/
def isTableMode : Mode → Bool
  | .inTable => true
  | .inCaption => true
  | .inTableBody => true
  | .inRow => true
  | .inCell => true
  | _ => false

/-- Whether an input is hidden. -/
def isHidden (t : Tag) : Bool :=
  match t.value? "type" with
  | some v => Text.asciiLower v.toList == "hidden".toList
  | none => false

/-- Says that a frameset cannot take the place of the body any more. -/
def withoutFrameset (b : Builder) : Builder := { b with framesetAllowed := false }

/-- Another body tag may only add attributes. -/
def bodyTag (b : Builder) (t : Tag) : Builder :=
  match b.body? with
  | some body => if b.inTemplate then b else b.withoutFrameset.addAttributes body t.attributes
  | none => b

/-- A frameset takes the place of a body as long as that shows nothing. -/
def framesetTag (b : Builder) (t : Tag) : Builder :=
  if b.framesetAllowed then
    match b.body? with
    | none => b
    | some body =>
      ({ b with
        document := b.document.detach body
        opened := [b.outermost] }.openTag t).withMode .inFrameset
  else b

/-- The item that the start of another item ends, if one is open in its list. -/
def findItem? (b : Builder) (names : List String) : List NodeId → Option String
  | [] => none
  | id :: rest =>
    if b.isOneOf names id then some (b.elementAt id).name
    else if b.isOneOf specials id && !b.isOneOf ["address", "div", "p"] id then none
    else b.findItem? names rest

/-- The start of an item of a list. -/
def itemTag (b : Builder) (t : Tag) : Builder :=
  let b := b.withoutFrameset
  let names := if t.name = "li" then ["li"] else ["dd", "dt"]
  let b :=
    match b.findItem? names b.opened with
    | some name => (b.closeImpliedExcept name).popThrough [name]
    | none => b
  b.endParagraph.openTag t

/-- The start of a form. Forms do not nest. -/
def formTag (b : Builder) (t : Tag) : Builder :=
  if b.form.isSome && !b.inTemplate then b
  else
    let (b, id) := b.endParagraph.insertElement (elementOf t)
    if b.inTemplate then b else { b with form := some id }

/-- The end of a form. -/
def formEnd (b : Builder) : Builder :=
  if b.inTemplate then
    if b.inScope defaultScope ["form"] then (b.closeImplied impliedEnds).popThrough ["form"] else b
  else
    match b.form with
    | none => b
    | some form =>
      let b := { b with form := none }
      if b.nodeInScope form then (b.closeImplied impliedEnds).removeOpen form else b

/-- The start of a button, which ends another one. -/
def buttonTag (b : Builder) (t : Tag) : Builder :=
  let b :=
    if b.inScope defaultScope ["button"] then
      (b.closeImplied impliedEnds).popThrough ["button"]
    else b
  (b.reconstruct.openTag t).withoutFrameset

/-- The start of a word that is not to be broken; these do not nest. -/
def nobrTag (b : Builder) (t : Tag) : Builder :=
  let b := b.reconstruct
  let b := if b.inScope defaultScope ["nobr"] then (b.closeFormatting "nobr").reconstruct else b
  b.openFormatting t

/-- The start of a choice. -/
def selectTag (b : Builder) (t : Tag) : Builder :=
  let b := (b.reconstruct.openTag t).withoutFrameset
  b.withMode (if isTableMode b.mode then .inSelectInTable else .inSelect)

/-- The start of a part of an annotation. -/
def rubyTag (b : Builder) (t : Tag) (close : Builder → Builder) : Builder :=
  (if b.inScope defaultScope ["ruby"] then close b else b).openTag t

/-- An element without content that is shown. -/
def shownVoid (b : Builder) (t : Tag) : Builder := (b.reconstruct.addVoid t).withoutFrameset

/-- A start tag in the body that does not belong into the head. -/
def bodyStart (b : Builder) (t : Tag) : Builder :=
  let name := t.name
  if name = "html" then b.rootTag t
  else if name = "body" then b.bodyTag t
  else if name = "frameset" then b.framesetTag t
  else if blocks.contains name then b.endParagraph.openTag t
  else if headings.contains name then
    let b := b.endParagraph
    (if b.currentIs headings then b.pop else b).openTag t
  else if name = "pre" ∨ name = "listing" then
    { b.endParagraph.openTag t with skipsLineFeed := true, framesetAllowed := false }
  else if name = "form" then b.formTag t
  else if name = "li" ∨ name = "dd" ∨ name = "dt" then b.itemTag t
  else if name = "plaintext" then { b.endParagraph.openTag t with content := .plain }
  else if name = "button" then b.buttonTag t
  else if name = "a" then b.closeLink.reconstruct.openFormatting t
  else if formats.contains name then b.reconstruct.openFormatting t
  else if name = "nobr" then b.nobrTag t
  else if ["applet", "marquee", "object"].contains name then
    (b.reconstruct.openTag t).addMark.withoutFrameset
  else if name = "table" then
    (((if b.oldStyle then b else b.endParagraph).openTag t).withoutFrameset).withMode .inTable
  else if ["area", "br", "embed", "img", "keygen", "wbr"].contains name then b.shownVoid t
  else if name = "input" then
    if isHidden t then b.reconstruct.addVoid t else b.shownVoid t
  else if ["param", "source", "track"].contains name then b.addVoid t
  else if name = "hr" then (b.endParagraph.addVoid t).withoutFrameset
  else if name = "image" then b.shownVoid { t with name := "img" }
  else if name = "textarea" then
    { b.withoutFrameset with skipsLineFeed := true }.openRaw t .escapable
  else if name = "xmp" then b.endParagraph.reconstruct.withoutFrameset.openRaw t .verbatim
  else if name = "iframe" then b.withoutFrameset.openRaw t .verbatim
  else if name = "noembed" ∨ name = "noscript" then b.openRaw t .verbatim
  else if name = "select" then b.selectTag t
  else if name = "optgroup" ∨ name = "option" then
    (if b.currentIs ["option"] then b.pop else b).reconstruct.openTag t
  else if name = "rb" ∨ name = "rtc" then b.rubyTag t fun b => b.closeImplied impliedEnds
  else if name = "rp" ∨ name = "rt" then b.rubyTag t fun b => b.closeImpliedExcept "rtc"
  else if name = "math" then b.reconstruct.openForeign .math "math" t
  else if name = "svg" then b.reconstruct.openForeign .svg "svg" t
  else if strayTableParts.contains name then b
  else b.reconstruct.openTag t

/-- The end of a block. -/
def blockEnd (b : Builder) (name : String) : Builder :=
  if b.inScope defaultScope [name] then (b.closeImplied impliedEnds).popThrough [name] else b

/-- The end of an item of a list. -/
def itemEnd (b : Builder) (name : String) : Builder :=
  if b.inScope (if name = "li" then listScope else defaultScope) [name] then
    (b.closeImpliedExcept name).popThrough [name]
  else b

/-- The end of a paragraph, which is empty if none is open. -/
def paragraphEnd (b : Builder) : Builder :=
  (if b.inScope buttonScope ["p"] then b else b.openImplied "p").closeParagraph

/-- The end of a heading, which may be of another level. -/
def headingEnd (b : Builder) : Builder :=
  if b.inScope defaultScope headings then (b.closeImplied impliedEnds).popThrough headings else b

/-- An end tag in the body. -/
def bodyEnd (b : Builder) (name : String) : Outcome :=
  if name = "template" then .done b.closeTemplate
  else if name = "body" then
    .done (if b.inScope defaultScope ["body"] then b.withMode .afterBody else b)
  else if name = "html" then
    if b.inScope defaultScope ["body"] then .again (b.withMode .afterBody) else .done b
  else if closedBlocks.contains name then .done (b.blockEnd name)
  else if name = "form" then .done b.formEnd
  else if name = "p" then .done b.paragraphEnd
  else if name = "li" ∨ name = "dd" ∨ name = "dt" then .done (b.itemEnd name)
  else if headings.contains name then .done b.headingEnd
  else if name = "a" ∨ name = "nobr" ∨ formats.contains name then .done (b.closeFormatting name)
  else if ["applet", "marquee", "object"].contains name then
    .done (if b.inScope defaultScope [name] then (b.blockEnd name).dropToMark else b)
  else if name = "br" then .done (b.shownVoid ⟨"br", [], false⟩)
  else .done (b.closeOrdinary name)

/-- In the body. -/
def inBodyStep (b : Builder) (e : Event) : Outcome :=
  match e with
  | .nul => .done b
  | .blanks s => .done (b.reconstruct.addText s)
  | .words s => .done (b.reconstruct.withoutFrameset.addText s)
  | .comment => .done b
  | .startTag t => if headTags.contains t.name then b.inHeadStep e else .done (b.bodyStart t)
  | .endTag name => b.bodyEnd name
  | .finish => if b.templateModes.isEmpty then .done b else b.finishTemplate

/-- In the raw text of an element. -/
def textStep (b : Builder) (e : Event) : Outcome :=
  match e with
  | .blanks s => .done (b.addText s)
  | .words s => .done (b.addText s)
  | .endTag _ => .done { b.pop with mode := b.savedMode, content := .markup }
  | .finish => .again { b.pop with mode := b.savedMode, content := .markup }
  | _ => .done b

/-- After the body. -/
def afterBodyStep (b : Builder) (e : Event) : Outcome :=
  match e with
  | .blanks _ => b.inBodyStep e
  | .comment => .done b
  | .finish => .done b
  | .startTag t =>
    if t.name = "html" then .done (b.rootTag t) else .again (b.withMode .inBody)
  | .endTag name =>
    if name = "html" then .done (b.withMode .afterAfterBody) else .again (b.withMode .inBody)
  | _ => .again (b.withMode .inBody)

/-- After the root element. -/
def afterAfterBodyStep (b : Builder) (e : Event) : Outcome :=
  match e with
  | .blanks _ => b.inBodyStep e
  | .comment => .done b
  | .finish => .done b
  | .startTag t =>
    if t.name = "html" then .done (b.rootTag t) else .again (b.withMode .inBody)
  | _ => .again (b.withMode .inBody)

/-- In a set of frames. -/
def inFramesetStep (b : Builder) (e : Event) : Outcome :=
  match e with
  | .blanks s => .done (b.addText s)
  | .startTag t =>
    if t.name = "html" then .done (b.rootTag t)
    else if t.name = "frameset" then .done (b.openTag t)
    else if t.name = "frame" then .done (b.addVoid t)
    else if t.name = "noframes" then b.inHeadStep e
    else .done b
  | .endTag name =>
    if name = "frameset" ∧ b.opened.length ≠ 1 then
      let b := b.pop
      .done (if b.currentIs ["frameset"] then b else b.withMode .afterFrameset)
    else .done b
  | _ => .done b

/-- After a set of frames. -/
def afterFramesetStep (b : Builder) (e : Event) : Outcome :=
  match e with
  | .blanks s => .done (b.addText s)
  | .startTag t =>
    if t.name = "html" then .done (b.rootTag t)
    else if t.name = "noframes" then b.inHeadStep e
    else .done b
  | .endTag name => .done (if name = "html" then b.withMode .afterAfterFrameset else b)
  | _ => .done b

/-- After the root element of a document of frames. -/
def afterAfterFramesetStep (b : Builder) (e : Event) : Outcome :=
  match e with
  | .blanks _ => b.inBodyStep e
  | .startTag t =>
    if t.name = "html" then .done (b.rootTag t)
    else if t.name = "noframes" then b.inHeadStep e
    else .done b
  | _ => .done b

end SiteTech.Html.Builder
