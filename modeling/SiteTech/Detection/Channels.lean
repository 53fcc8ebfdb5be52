import SiteTech.Detection.Store
import SiteTech.Evidence
import SiteTech.Html.DocumentReader
import SiteTech.Selector.Search

namespace SiteTech

open Html (Document NodeId)

namespace Technology

/-- The sign that a signature gives on a value. -/
def hit (t : Technology) (p : Pattern) (value : String) : Hit := ⟨t, p.version value, p.confidence⟩

/-- The signs that signatures give on values without names: each signature that has a pattern on each
value that it matches. -/
def textHits (t : Technology) (patterns : PatternTable) (values : List String) : List Hit :=
  (PatternTable.all patterns).flatMap fun p =>
    (values.filter p.isMatch).map (t.hit p)

/-- The signs that signatures give on one value: each that accepts it. -/
def valueHits (t : Technology) (patterns : List Pattern) (value : String) : List Hit :=
  (patterns.filter fun p => p.accepts value).map fun p => t.hit p value

/-- The signs that signatures give on the values of their names. -/
def keyedHits (t : Technology) (patterns : PatternTable) (values : String → List String) :
    List Hit :=
  patterns.toList.flatMap fun (key, ps) =>
    ps.flatMap fun p =>
      ((values key).filter p.accepts).map (t.hit p)

/-- Signs in the address of a page. -/
def urlHits (t : Technology) (url : String) : List Hit := t.textHits t.channels.url [url]

/-- Signs in the text of a page. -/
def htmlHits (t : Technology) (html : String) : List Hit := t.textHits t.channels.html [html]

/-- Signs in the addresses of scripts. -/
def scriptHits (t : Technology) (scripts : List String) : List Hit :=
  t.textHits t.channels.scripts scripts

/-- Signs in the fields of an answer. -/
def headerHits (t : Technology) (headers : Table String (List String)) : List Hit :=
  t.keyedHits t.channels.headers fun key => (headers.get? (Text.lower key)).getD []

/-- Signs in cookies. -/
def cookieHits (t : Technology) (cookies : Table String String) : List Hit :=
  t.keyedHits t.channels.cookies fun key => (cookies.get? (Text.lower key)).toList

/-- Signs in meta tags. -/
def metaHits (t : Technology) (metas : Table String (List String)) : List Hit :=
  t.keyedHits t.channels.metas fun key => (metas.get? (Text.lower key)).getD []

/-- Signs in the records of a host. -/
def dnsHits (t : Technology) (dns : Table String (List String)) : List Hit :=
  t.keyedHits t.channels.dns fun key => (dns.get? (Text.upper key)).getD []

/-- Signs in the issuers of a certificate: one for each that contains the name asked for. -/
def certIssuerHits (t : Technology) (issuers : List String) : List Hit :=
  match t.certIssuer with
  | none => []
  | some expected =>
    (issuers.filter fun issuer => Text.occursIn expected.toList issuer.toList).map fun _ =>
      ⟨t, "", 100⟩

/-- The text of a value that a page gives for an expression; only texts and numbers count. -/
def scriptText? : Json.Value → Option String
  | .string s => some s
  | .number n => some (String.ofList n.text)
  | _ => none

/-- Signs in the values of expressions. -/
def jsHits (t : Technology) (evaluate : String → Except Error (Option Json.Value)) : List Hit :=
  t.keyedHits t.channels.js fun expression =>
    match evaluate expression with
    | .ok (some v) => (scriptText? v).toList
    | _ => []

/-- Signs that a check gives on an element. -/
def checkHits (t : Technology) (d : Document) (id : NodeId) (check : DomCheck) : List Hit :=
  match check.mode with
  | .text => t.valueHits (PatternTable.all check.patterns) (d.text id)
  | .exists => t.valueHits (PatternTable.all check.patterns) (d.text id)
  | .attributes =>
    t.keyedHits check.patterns fun name =>
      ((d.element? id).bind fun e => e.attribute? name).toList
  | .properties => []

/-- Signs that a rule gives on a document: only the first element that its selector finds counts. -/
def ruleHits (t : Technology) (d : Document) (rule : DomRule) : List Hit :=
  match (Selector.ofText? rule.selector).bind fun s => s.first? d with
  | none => []
  | some id => rule.checks.flatMap (t.checkHits d id)

/-- Signs in the elements of a page. -/
def domHits (t : Technology) (d : Document) : List Hit := t.dom.flatMap (t.ruleHits d)

end Technology

end SiteTech
