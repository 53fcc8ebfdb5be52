import SiteTech.Html.Builder.Table
import SiteTech.Html.TokenReader

namespace SiteTech.Html

namespace Builder

/-- Deals with an event as the mode says. -/
def modeStep (b : Builder) (e : Event) : Outcome :=
  match b.mode with
  | .initial => b.initialStep e
  | .beforeHtml => b.beforeHtmlStep e
  | .beforeHead => b.beforeHeadStep e
  | .inHead => b.inHeadStep e
  | .afterHead => b.afterHeadStep e
  | .inBody => b.inBodyStep e
  | .text => b.textStep e
  | .inTable => b.inTableStep e
  | .inTableText => b.inTableTextStep e
  | .inCaption => b.inCaptionStep e
  | .inColumnGroup => b.inColumnGroupStep e
  | .inTableBody => b.inTableBodyStep e
  | .inRow => b.inRowStep e
  | .inCell => b.inCellStep e
  | .inSelect => b.inSelectStep e
  | .inSelectInTable => b.inSelectInTableStep e
  | .inTemplate => b.inTemplateStep e
  | .afterBody => b.afterBodyStep e
  | .inFrameset => b.inFramesetStep e
  | .afterFrameset => b.afterFramesetStep e
  | .afterAfterBody => b.afterAfterBodyStep e
  | .afterAfterFrameset => b.afterAfterFramesetStep e

/-- Deals with an event until it is dealt with. -/
def settle (e : Event) : Nat → Builder → Builder
  | 0, b => b
  | fuel + 1, b =>
    match if b.isForeign e then foreignStep modeStep b e else b.modeStep e with
    | .done b => b
    | .again b => settle e fuel b

/-- Deals with an event. It is dealt with again at most a few times for every open element. -/
def take (b : Builder) (e : Event) : Builder := settle e (8 * (b.opened.length + 4)) b

/-- The kinds of characters that text is cut at. -/
inductive CharKind where
  | blank
  | word
  | nul
deriving DecidableEq

/-- The kind of a character. -/
def CharKind.of (c : Char) : CharKind :=
  if isSpace c then .blank else if c.toNat = 0 then .nul else .word

/-- The event of a run of characters of one kind. -/
def CharKind.event (kind : CharKind) (run : List Char) : Event :=
  match kind with
  | .blank => .blanks (String.ofList run)
  | .word => .words (String.ofList run)
  | .nul => .nul

/-- Puts a character in front of runs of characters of one kind. -/
def addToRuns (c : Char) (runs : List (CharKind × List Char)) : List (CharKind × List Char) :=
  match runs with
  | (kind, run) :: rest =>
    if kind = CharKind.of c then (kind, c :: run) :: rest else (CharKind.of c, [c]) :: runs
  | [] => [(CharKind.of c, [c])]

/-- The events of a text. -/
def eventsOf (s : List Char) : List Event :=
  (s.foldr addToRuns []).map fun (kind, run) => kind.event run

/-- Beginnings of the public identifiers of document types that ask for the oldest rules. -/
def oldTypes : List String :=
  ["-//advasoft ltd//dtd html 3.0 aswedit + extensions//",
   "-//as//dtd html 3.0 aswedit + extensions//", "-//ietf//dtd html 2.0 level 1//",
   "-//ietf//dtd html 2.0 level 2//", "-//ietf//dtd html 2.0 strict level 1//",
   "-//ietf//dtd html 2.0 strict level 2//", "-//ietf//dtd html 2.0 strict//",
   "-//ietf//dtd html 2.0//", "-//ietf//dtd html 2.1e//", "-//ietf//dtd html 3.0//",
   "-//ietf//dtd html 3.2 final//", "-//ietf//dtd html 3.2//", "-//ietf//dtd html 3//",
   "-//ietf//dtd html level 0//", "-//ietf//dtd html level 1//", "-//ietf//dtd html level 2//",
   "-//ietf//dtd html level 3//", "-//ietf//dtd html strict level 0//",
   "-//ietf//dtd html strict level 1//", "-//ietf//dtd html strict level 2//",
   "-//ietf//dtd html strict level 3//", "-//ietf//dtd html strict//", "-//ietf//dtd html//",
   "-//metrius//dtd metrius presentational//",
   "-//microsoft//dtd internet explorer 2.0 html strict//",
   "-//microsoft//dtd internet explorer 2.0 html//",
   "-//microsoft//dtd internet explorer 2.0 tables//",
   "-//microsoft//dtd internet explorer 3.0 html strict//",
   "-//microsoft//dtd internet explorer 3.0 html//",
   "-//microsoft//dtd internet explorer 3.0 tables//", "-//netscape comm. corp.//dtd html//",
   "-//netscape comm. corp.//dtd strict html//", "-//o'reilly and associates//dtd html 2.0//",
   "-//o'reilly and associates//dtd html extended 1.0//",
   "-//o'reilly and associates//dtd html extended relaxed 1.0//",
   "-//softquad software//dtd hotmetal pro 6.0::19990601::extensions to html 4.0//",
   "-//softquad//dtd hotmetal pro 4.0::19971010::extensions to html 4.0//",
   "-//spyglass//dtd html 2.0 extended//", "-//sq//dtd html 2.0 hotmetal + extensions//",
   "-//sun microsystems corp.//dtd hotjava html//",
   "-//sun microsystems corp.//dtd hotjava strict html//", "-//w3c//dtd html 3 1995-03-24//",
   "-//w3c//dtd html 3.2 draft//", "-//w3c//dtd html 3.2 final//", "-//w3c//dtd html 3.2//",
   "-//w3c//dtd html 3.2s draft//", "-//w3c//dtd html 4.0 frameset//",
   "-//w3c//dtd html 4.0 transitional//", "-//w3c//dtd html experimental 19960712//",
   "-//w3c//dtd html experimental 970421//", "-//w3c//dtd w3 html//",
   "-//w3o//dtd w3 html 3.0//", "-//webtechs//dtd mozilla html 2.0//",
   "-//webtechs//dtd mozilla html//"]

/-- Public identifiers of document types that ask for the oldest rules. -/
def oldTypeNames : List String :=
  ["-//w3o//dtd w3 html strict 3.0//en//", "-/w3c/dtd html 4.0 transitional/en", "html"]

/-- Beginnings of public identifiers that ask for the oldest rules if there is no system
identifier. -/
def oldTypesAlone : List String :=
  ["-//w3c//dtd html 4.01 frameset//", "-//w3c//dtd html 4.01 transitional//"]

/-- The end of the one system identifier that asks for the oldest rules. -/
def oldSystemName : String := "/data/dtd/v11/ibmxhtml1-transitional.dtd"

/-- Whether a document type asks for the oldest rules. -/
def isOldType (d : Doctype) : Bool :=
  let publicId := d.publicId.map fun s => Text.asciiLower s.toList
  let startsWith (names : List String) : Bool :=
    match publicId with
    | some p => names.any fun n => n.toList.isPrefixOf p
    | none => false
  d.incomplete || d.name != some "html" ||
    publicId.any (fun p => oldTypeNames.any fun n => n.toList == p) ||
    d.systemId.any (fun s => oldSystemName.toList.isSuffixOf (Text.asciiLower s.toList)) ||
    startsWith oldTypes || (startsWith oldTypesAlone && d.systemId.isNone)

/-- Takes in one piece of a document. A line feed just after some tags does not count. -/
def add (b : Builder) (t : Token) : Builder :=
  let skips := b.skipsLineFeed
  let b := { b with skipsLineFeed := false }
  match t with
  | .text s =>
    let s := if skips && s.head? == some '\n' then s.drop 1 else s
    (eventsOf s).foldl take b
  | .startTag tag => b.take (.startTag tag)
  | .endTag name => b.take (.endTag name)
  | .comment => b.take .comment
  | .doctype d =>
    if b.mode = .initial then { b with oldStyle := isOldType d, mode := .beforeHtml } else b

/-- Takes in the pieces of a text. Every piece takes a character, so that `fuel` is enough if it is
not less than the length of the text. -/
def addAll : Nat → List Char → Builder → Builder
  | 0, _, b => b
  | fuel + 1, s, b =>
    match Token.next? b.content b.allowsSections s with
    | none => b
    | some (t, rest) => addAll fuel rest (b.add t)

end Builder

/-- The document of a text. -/
def Document.ofText (text : String) : Document :=
  let chars := documentChars text
  ((Builder.addAll chars.length chars Builder.empty).take .finish).document

end SiteTech.Html
