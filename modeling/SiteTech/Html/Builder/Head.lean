import SiteTech.Html.Builder.Formatting

namespace SiteTech.Html.Builder

/-- End tags that open what is missing in front of a body. -/
def openingEnds : List String := ["head", "body", "html", "br"]

/-- Tags that belong into a head. -/
def headTags : List String :=
  ["base", "basefont", "bgsound", "link", "meta", "noframes", "script", "style", "template", "title"]

/-- The tag of the root element inside the document: it may only add attributes. -/
def rootTag (b : Builder) (t : Tag) : Builder :=
  if b.inTemplate then b else b.addAttributes b.outermost t.attributes

/-- Begins a template. -/
def openTemplate (b : Builder) (t : Tag) : Builder :=
  { b with
    formatting := .mark :: b.formatting
    framesetAllowed := false
    mode := .inTemplate
    templateModes := .inTemplate :: b.templateModes }.openTag t

/-- Leaves the innermost template. -/
def leaveTemplate (b : Builder) : Builder :=
  let b := (b.popThrough ["template"]).dropToMark
  { b with templateModes := b.templateModes.drop 1 }.resetMode

/-- The end of a template. -/
def closeTemplate (b : Builder) : Builder :=
  if b.inTemplate then (b.closeImplied allImpliedEnds).leaveTemplate else b

/-- Before everything. -/
def initialStep (b : Builder) : Event → Outcome
  | .blanks _ => .done b
  | .comment => .done b
  | _ => .again { b with oldStyle := true, mode := .beforeHtml }

/-- Before the root element. -/
def beforeHtmlStep (b : Builder) (e : Event) : Outcome :=
  let otherwise := Outcome.again ((b.openRoot []).withMode .beforeHead)
  match e with
  | .blanks _ => .done b
  | .comment => .done b
  | .startTag t =>
    if t.name = "html" then .done ((b.openRoot t.attributes).withMode .beforeHead) else otherwise
  | .endTag name => if openingEnds.contains name then otherwise else .done b
  | _ => otherwise

/-- Opens the head. -/
def openHead (b : Builder) (attributes : List Attribute) : Builder :=
  let (b, id) := b.insertElement ⟨.html, "head", attributes⟩
  { b with head := some id, mode := .inHead }

/-- Before the head. -/
def beforeHeadStep (b : Builder) (e : Event) : Outcome :=
  let otherwise := Outcome.again (b.openHead [])
  match e with
  | .blanks _ => .done b
  | .comment => .done b
  | .startTag t =>
    if t.name = "html" then .done (b.rootTag t)
    else if t.name = "head" then .done (b.openHead t.attributes)
    else otherwise
  | .endTag name => if openingEnds.contains name then otherwise else .done b
  | _ => otherwise

/-- In the head. -/
def inHeadStep (b : Builder) (e : Event) : Outcome :=
  let otherwise := Outcome.again (b.pop.withMode .afterHead)
  match e with
  | .blanks s => .done (b.addText s)
  | .comment => .done b
  | .startTag t =>
    if t.name = "html" then .done (b.rootTag t)
    else if ["base", "basefont", "bgsound", "link", "meta"].contains t.name then .done (b.addVoid t)
    else if t.name = "title" then .done (b.openRaw t .escapable)
    else if ["noframes", "style", "noscript"].contains t.name then .done (b.openRaw t .verbatim)
    else if t.name = "script" then .done (b.openRaw t .script)
    else if t.name = "template" then .done (b.openTemplate t)
    else if t.name = "head" then .done b
    else otherwise
  | .endTag name =>
    if name = "head" then .done (b.pop.withMode .afterHead)
    else if name = "template" then .done b.closeTemplate
    else if ["body", "html", "br"].contains name then otherwise
    else .done b
  | _ => otherwise

/-- Deals with an event as in the head, which is open only for that. -/
def reenterHead (b : Builder) (e : Event) : Outcome :=
  match b.head with
  | none => .done b
  | some head => ((b.push head).inHeadStep e).map fun b => b.removeOpen head

/-- Between the head and the body. -/
def afterHeadStep (b : Builder) (e : Event) : Outcome :=
  let otherwise := Outcome.again ((b.openImplied "body").withMode .inBody)
  match e with
  | .blanks s => .done (b.addText s)
  | .comment => .done b
  | .startTag t =>
    if t.name = "html" then .done (b.rootTag t)
    else if t.name = "body" then
      .done { b.openTag t with framesetAllowed := false, mode := .inBody }
    else if t.name = "frameset" then .done ((b.openTag t).withMode .inFrameset)
    else if headTags.contains t.name then b.reenterHead e
    else if t.name = "head" then .done b
    else otherwise
  | .endTag name =>
    if name = "template" then .done b.closeTemplate
    else if ["body", "html", "br"].contains name then otherwise
    else .done b
  | _ => otherwise

/-- The end of the document inside a template, which ends with it. -/
def finishTemplate (b : Builder) : Outcome :=
  if b.inTemplate then .again b.leaveTemplate else .done b

end SiteTech.Html.Builder
