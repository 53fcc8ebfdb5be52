import SiteTech.Html.Builder.Formatting

namespace SiteTech.Html.Builder

/-- Elements of graphics whose names have capitals. -/
def graphicsElements : List String :=
  ["altGlyph", "altGlyphDef", "altGlyphItem", "animateColor", "animateMotion", "animateTransform",
   "clipPath", "feBlend", "feColorMatrix", "feComponentTransfer", "feComposite",
   "feConvolveMatrix", "feDiffuseLighting", "feDisplacementMap", "feDistantLight", "feDropShadow",
   "feFlood", "feFuncA", "feFuncB", "feFuncG", "feFuncR", "feGaussianBlur", "feImage", "feMerge",
   "feMergeNode", "feMorphology", "feOffset", "fePointLight", "feSpecularLighting", "feSpotLight",
   "feTile", "feTurbulence", "foreignObject", "glyphRef", "linearGradient", "radialGradient",
   "textPath"]

/-- Attributes of graphics whose names have capitals. -/
def graphicsAttributes : List String :=
  ["attributeName", "attributeType", "baseFrequency", "baseProfile", "calcMode", "clipPathUnits",
   "diffuseConstant", "edgeMode", "filterUnits", "glyphRef", "gradientTransform", "gradientUnits",
   "kernelMatrix", "kernelUnitLength", "keyPoints", "keySplines", "keyTimes", "lengthAdjust",
   "limitingConeAngle", "markerHeight", "markerUnits", "markerWidth", "maskContentUnits",
   "maskUnits", "numOctaves", "pathLength", "patternContentUnits", "patternTransform",
   "patternUnits", "pointsAtX", "pointsAtY", "pointsAtZ", "preserveAlpha", "preserveAspectRatio",
   "primitiveUnits", "refX", "refY", "repeatCount", "repeatDur", "requiredExtensions",
   "requiredFeatures", "specularConstant", "specularExponent", "spreadMethod", "startOffset",
   "stdDeviation", "stitchTiles", "surfaceScale", "systemLanguage", "tableValues", "targetX",
   "targetY", "textLength", "viewBox", "viewTarget", "xChannelSelector", "yChannelSelector",
   "zoomAndPan"]

/-- Attributes that belong to other vocabularies, and their names there. -/
def qualifiedAttributes : List (String × String) :=
  [("xlink:actuate", "actuate"), ("xlink:arcrole", "arcrole"), ("xlink:href", "href"),
   ("xlink:role", "role"), ("xlink:show", "show"), ("xlink:title", "title"),
   ("xlink:type", "type"), ("xml:lang", "lang"), ("xml:space", "space"), ("xmlns", "xmlns"),
   ("xmlns:xlink", "xlink")]

/-- The spelling of a name in a list of names, if it is there in lower case. -/
def respell (names : List String) (name : String) : String :=
  (names.find? fun n => Text.asciiLower n.toList == name.toList).getD name

/-- The name of an element in a vocabulary. -/
def foreignName (v : Vocabulary) (name : String) : String :=
  if v = .svg then respell graphicsElements name else name

/-- An attribute in a vocabulary. -/
def foreignAttribute (v : Vocabulary) (a : Attribute) : Attribute :=
  match qualifiedAttributes.lookup a.name with
  | some name => ⟨name, a.value, true⟩
  | none =>
    match v with
    | .html => a
    | .svg => { a with name := respell graphicsAttributes a.name }
    | .math => { a with name := respell ["definitionURL"] a.name }

/-- Opens an element of a vocabulary; one that closes itself is only added. -/
def openForeign (b : Builder) (v : Vocabulary) (name : String) (t : Tag) : Builder :=
  let e : Element := ⟨v, name, t.attributes.map (foreignAttribute v)⟩
  if t.selfClosing then (b.insertClosed e).1 else (b.insertElement e).1

/-- Whether markup is read as foreign where the innermost open element is the given one. -/
def isForeignIn (e : Element) (event : Event) : Bool :=
  if e.vocabulary = .html then false
  else
    match event with
    | .finish => false
    | .startTag t =>
      !(isGraphicsHtml e || (isMathText e && t.name != "mglyph" && t.name != "malignmark") ||
        (e.vocabulary == .math && e.name == "annotation-xml" && t.name == "svg"))
    | .blanks _ => !(isMathText e || isGraphicsHtml e)
    | .words _ => !(isMathText e || isGraphicsHtml e)
    | .nul => !(isMathText e || isGraphicsHtml e)
    | _ => true

/-- Whether an event is read as foreign. -/
def isForeign (b : Builder) (event : Event) : Bool :=
  match b.opened with
  | [] => false
  | id :: _ => isForeignIn (b.elementAt id) event

/-- Whether literal sections count here. -/
def allowsSections (b : Builder) : Bool :=
  match b.opened with
  | [] => false
  | id :: _ => (b.elementAt id).vocabulary != .html

/-- Start tags that leave foreign elements. -/
def leavingTags : List String :=
  ["b", "big", "blockquote", "body", "br", "center", "code", "dd", "div", "dl", "dt", "em", "embed",
   "h1", "h2", "h3", "h4", "h5", "h6", "head", "hr", "i", "img", "li", "listing", "menu", "meta",
   "nobr", "ol", "p", "pre", "ruby", "s", "small", "span", "strong", "strike", "sub", "sup",
   "table", "tt", "u", "ul", "var"]

/-- Whether a start tag leaves foreign elements. -/
def leavesForeign (t : Tag) : Bool :=
  leavingTags.contains t.name ||
    (t.name == "font" && t.attributes.any fun a => ["color", "face", "size"].contains a.name)

/-- Closes foreign elements up to one inside which markup is read as usual. -/
def leaveForeign (b : Builder) : Builder :=
  b.popWhile fun id =>
    let e := b.elementAt id
    !(e.vocabulary == .html || isMathText e || isGraphicsHtml e)

/-- What the end tag of a name does to the open elements, if it closes a foreign one: `none` if an
element of the main vocabulary comes first. -/
def closeForeign? (b : Builder) (name : String) : Bool → List NodeId → Option (List NodeId)
  | _, [] => some b.opened
  | _, [_] => some b.opened
  | first, id :: rest =>
    let e := b.elementAt id
    if !first && e.vocabulary == .html then none
    else if Text.asciiLower e.name.toList == name.toList then some rest
    else b.closeForeign? name false rest

/-- Deals with an event in a foreign element; `usual` deals with it as outside of one. -/
def foreignStep (usual : Builder → Event → Outcome) (b : Builder) (e : Event) : Outcome :=
  match e with
  | .nul => .done (b.addText (String.singleton replacement))
  | .blanks s => .done (b.addText s)
  | .words s => .done ({ b with framesetAllowed := false }.addText s)
  | .comment => .done b
  | .startTag t =>
    if leavesForeign t then usual b.leaveForeign e
    else
      let v := (b.elementAt b.current).vocabulary
      .done (b.openForeign v (foreignName v t.name) t)
  | .endTag name =>
    if name = "br" ∨ name = "p" then usual b.leaveForeign e
    else
      match b.closeForeign? name true b.opened with
      | some opened => .done { b with opened := opened }
      | none => usual b e
  | .finish => usual b e

end SiteTech.Html.Builder
