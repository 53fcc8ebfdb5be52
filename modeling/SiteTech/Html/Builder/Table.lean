import SiteTech.Html.Builder.Body

namespace SiteTech.Html.Builder

/-- Deals with an event as in the body, but puts what has no place in a table in front of it. -/
def fosterStep (b : Builder) (e : Event) : Outcome :=
  (inBodyStep { b with fostering := true } e).map fun b => { b with fostering := false }

/-- Text in a table is held back until its end, since it only stays if it is all blank. -/
def tableTextStart (b : Builder) (e : Event) : Outcome :=
  if b.currentIs tableParts then .again { b with savedMode := b.mode, mode := .inTableText }
  else b.fosterStep e

/-- Closes what is open up to a table or template. -/
def popToTable (b : Builder) : Builder := b.popTo ["html", "table", "template"]

/-- A start tag in a table. -/
def tableStart (b : Builder) (t : Tag) : Outcome :=
  let e := Event.startTag t
  let name := t.name
  if name = "caption" then .done ((b.popToTable.addMark.openTag t).withMode .inCaption)
  else if name = "colgroup" then .done ((b.popToTable.openTag t).withMode .inColumnGroup)
  else if name = "col" then .again ((b.popToTable.openImplied "colgroup").withMode .inColumnGroup)
  else if ["tbody", "tfoot", "thead"].contains name then
    .done ((b.popToTable.openTag t).withMode .inTableBody)
  else if ["td", "th", "tr"].contains name then
    .again ((b.popToTable.openImplied "tbody").withMode .inTableBody)
  else if name = "table" then
    if b.inScope tableScope ["table"] then .again (b.popThrough ["table"]).resetMode else .done b
  else if ["style", "script", "template"].contains name then b.inHeadStep e
  else if name = "input" then if isHidden t then .done (b.addVoid t) else b.fosterStep e
  else if name = "form" then
    if !b.inTemplate && b.form.isNone then
      let (b, id) := b.insertClosed (elementOf t)
      .done { b with form := some id }
    else .done b
  else b.fosterStep e

/-- An end tag in a table. -/
def tableEnd (b : Builder) (name : String) : Outcome :=
  if name = "table" then
    .done (if b.inScope tableScope ["table"] then (b.popThrough ["table"]).resetMode else b)
  else if ["body", "caption", "col", "colgroup", "html", "tbody", "td", "tfoot", "th", "thead",
      "tr"].contains name then .done b
  else if name = "template" then .done b.closeTemplate
  else b.fosterStep (.endTag name)

/-- In a table. -/
def inTableStep (b : Builder) (e : Event) : Outcome :=
  match e with
  | .nul => b.tableTextStart e
  | .blanks _ => b.tableTextStart e
  | .words _ => b.tableTextStart e
  | .comment => .done b
  | .startTag t => b.tableStart t
  | .endTag name => b.tableEnd name
  | .finish => b.inBodyStep e

/-- The state that an outcome leaves. -/
def stateOf : Outcome → Builder
  | .done b => b
  | .again b => b

/-- Puts the text that was held back in a table where it belongs. -/
def releaseText (b : Builder) : Builder :=
  let held := b.tableText.reverse
  let b := { b with tableText := [] }
  let allBlank := held.all fun e =>
    match e with
    | .words _ => false
    | _ => true
  held.foldl
    (fun b e =>
      match e with
      | .blanks s => if allBlank then b.addText s else stateOf (b.fosterStep e)
      | e => stateOf (b.fosterStep e))
    b

/-- In the text of a table. -/
def inTableTextStep (b : Builder) (e : Event) : Outcome :=
  match e with
  | .nul => .done b
  | .blanks _ => .done { b with tableText := e :: b.tableText }
  | .words _ => .done { b with tableText := e :: b.tableText }
  | _ =>
    let b := b.releaseText
    .again (b.withMode b.savedMode)

/-- Closes a caption. -/
def closeCaption (b : Builder) : Builder :=
  (((b.closeImplied impliedEnds).popThrough ["caption"]).dropToMark).withMode .inTable

/-- Tags that end a caption or a cell. -/
def tableStarts : List String :=
  ["caption", "col", "colgroup", "tbody", "td", "tfoot", "th", "thead", "tr"]

/-- In a caption. -/
def inCaptionStep (b : Builder) (e : Event) : Outcome :=
  let isOpen := b.inScope tableScope ["caption"]
  match e with
  | .startTag t =>
    if tableStarts.contains t.name then if isOpen then .again b.closeCaption else .done b
    else b.inBodyStep e
  | .endTag name =>
    if name = "caption" then .done (if isOpen then b.closeCaption else b)
    else if name = "table" then if isOpen then .again b.closeCaption else .done b
    else if ["body", "col", "colgroup", "html", "tbody", "td", "tfoot", "th", "thead",
        "tr"].contains name then .done b
    else b.inBodyStep e
  | _ => b.inBodyStep e

/-- In a group of columns. -/
def inColumnGroupStep (b : Builder) (e : Event) : Outcome :=
  let otherwise :=
    if b.currentIs ["colgroup"] then Outcome.again (b.pop.withMode .inTable) else .done b
  match e with
  | .blanks s => .done (b.addText s)
  | .comment => .done b
  | .finish => b.inBodyStep e
  | .startTag t =>
    if t.name = "html" then .done (b.rootTag t)
    else if t.name = "col" then .done (b.addVoid t)
    else if t.name = "template" then b.inHeadStep e
    else otherwise
  | .endTag name =>
    if name = "colgroup" then
      .done (if b.currentIs ["colgroup"] then b.pop.withMode .inTable else b)
    else if name = "col" then .done b
    else if name = "template" then .done b.closeTemplate
    else otherwise
  | _ => otherwise

/-- Closes what is open up to a part of a table with rows. -/
def popToSection (b : Builder) : Builder :=
  b.popTo ["tbody", "tfoot", "thead", "template", "html"]

/-- In a part of a table with rows. -/
def inTableBodyStep (b : Builder) (e : Event) : Outcome :=
  let leave :=
    if b.inScope tableScope ["table", "tbody", "tfoot"] then
      Outcome.again (b.popToSection.pop.withMode .inTable)
    else .done b
  match e with
  | .startTag t =>
    if t.name = "tr" then .done ((b.popToSection.openTag t).withMode .inRow)
    else if t.name = "th" ∨ t.name = "td" then
      .again ((b.popToSection.openImplied "tr").withMode .inRow)
    else if ["caption", "col", "colgroup", "tbody", "tfoot", "thead"].contains t.name then leave
    else b.inTableStep e
  | .endTag name =>
    if ["tbody", "tfoot", "thead"].contains name then
      .done (if b.inScope tableScope [name] then b.popToSection.pop.withMode .inTable else b)
    else if name = "table" then leave
    else if ["body", "caption", "col", "colgroup", "html", "td", "th", "tr"].contains name then
      .done b
    else b.inTableStep e
  | _ => b.inTableStep e

/-- Closes what is open up to a row. -/
def popToRow (b : Builder) : Builder := b.popTo ["tr", "template", "html"]

/-- In a row. -/
def inRowStep (b : Builder) (e : Event) : Outcome :=
  let isOpen := b.inScope tableScope ["tr"]
  let closed := b.popToRow.pop.withMode .inTableBody
  match e with
  | .startTag t =>
    if t.name = "th" ∨ t.name = "td" then
      .done ((b.popToRow.openTag t).addMark.withMode .inCell)
    else if ["caption", "col", "colgroup", "tbody", "tfoot", "thead", "tr"].contains t.name then
      if isOpen then .again closed else .done b
    else b.inTableStep e
  | .endTag name =>
    if name = "tr" then .done (if isOpen then closed else b)
    else if name = "table" then if isOpen then .again closed else .done b
    else if ["tbody", "tfoot", "thead"].contains name then
      if b.inScope tableScope [name] && isOpen then .again closed else .done b
    else if ["body", "caption", "col", "colgroup", "html", "td", "th"].contains name then .done b
    else b.inTableStep e
  | _ => b.inTableStep e

/-- Closes the cells in names. -/
def closeCell (b : Builder) (names : List String) : Builder :=
  (((b.closeImplied impliedEnds).popThrough names).dropToMark).withMode .inRow

/-- In a cell. -/
def inCellStep (b : Builder) (e : Event) : Outcome :=
  match e with
  | .startTag t =>
    if tableStarts.contains t.name then
      if b.inScope tableScope ["td", "th"] then .again (b.closeCell ["td", "th"]) else .done b
    else b.inBodyStep e
  | .endTag name =>
    if name = "td" ∨ name = "th" then
      .done (if b.inScope tableScope [name] then b.closeCell [name] else b)
    else if ["body", "caption", "col", "colgroup", "html"].contains name then .done b
    else if ["table", "tbody", "tfoot", "thead", "tr"].contains name then
      if b.inScope tableScope [name] then .again (b.closeCell ["td", "th"]) else .done b
    else b.inBodyStep e
  | _ => b.inBodyStep e

/-- Closes a choice. -/
def closeSelect (b : Builder) : Builder := (b.popThrough ["select"]).resetMode

/-- Closes an option, and then a group of options. -/
def closeOptions (b : Builder) : Builder :=
  let b := if b.currentIs ["option"] then b.pop else b
  if b.currentIs ["optgroup"] then b.pop else b

/-- The end of a group of options. -/
def optionGroupEnd (b : Builder) : Builder :=
  let b := if b.currentIs ["option"] && b.pop.currentIs ["optgroup"] then b.pop else b
  if b.currentIs ["optgroup"] then b.pop else b

/-- In a choice. -/
def inSelectStep (b : Builder) (e : Event) : Outcome :=
  let isOpen := b.inScope selectScope ["select"]
  match e with
  | .nul => .done b
  | .blanks s => .done (b.addText s)
  | .words s => .done (b.addText s)
  | .comment => .done b
  | .finish => b.inBodyStep e
  | .startTag t =>
    if t.name = "html" then .done (b.rootTag t)
    else if t.name = "option" then
      .done ((if b.currentIs ["option"] then b.pop else b).openTag t)
    else if t.name = "optgroup" then .done (b.closeOptions.openTag t)
    else if t.name = "hr" then .done (b.closeOptions.addVoid t)
    else if t.name = "select" then .done (if isOpen then b.closeSelect else b)
    else if ["input", "keygen", "textarea"].contains t.name then
      if isOpen then .again b.closeSelect else .done b
    else if t.name = "script" ∨ t.name = "template" then b.inHeadStep e
    else .done b
  | .endTag name =>
    if name = "optgroup" then .done b.optionGroupEnd
    else if name = "option" then .done (if b.currentIs ["option"] then b.pop else b)
    else if name = "select" then .done (if isOpen then b.closeSelect else b)
    else if name = "template" then .done b.closeTemplate
    else .done b

/-- In a choice inside a table. -/
def inSelectInTableStep (b : Builder) (e : Event) : Outcome :=
  let parts := ["caption", "table", "tbody", "tfoot", "thead", "tr", "td", "th"]
  match e with
  | .startTag t => if parts.contains t.name then .again b.closeSelect else b.inSelectStep e
  | .endTag name =>
    if parts.contains name then
      if b.inScope tableScope [name] then .again b.closeSelect else .done b
    else b.inSelectStep e
  | _ => b.inSelectStep e

/-- Reads a template on in another mode. -/
def templateAs (b : Builder) (mode : Mode) : Outcome :=
  .again { b with templateModes := mode :: b.templateModes.drop 1, mode := mode }

/-- In a template. -/
def inTemplateStep (b : Builder) (e : Event) : Outcome :=
  match e with
  | .blanks _ => b.inBodyStep e
  | .words _ => b.inBodyStep e
  | .comment => .done b
  | .nul => .done b
  | .finish => b.finishTemplate
  | .endTag name => .done (if name = "template" then b.closeTemplate else b)
  | .startTag t =>
    if headTags.contains t.name then b.inHeadStep e
    else if ["caption", "colgroup", "tbody", "tfoot", "thead"].contains t.name then
      b.templateAs .inTable
    else if t.name = "col" then b.templateAs .inColumnGroup
    else if t.name = "tr" then b.templateAs .inTableBody
    else if t.name = "td" ∨ t.name = "th" then b.templateAs .inRow
    else b.templateAs .inBody

end SiteTech.Html.Builder
