import SiteTech.Html.Reference
import SiteTech.Html.Token

namespace SiteTech.Html

/-- Where a reader stands inside a tag. -/
inductive TagPlace where
  | name
  | beforeAttribute
  | attributeName
  | afterAttributeName
  | beforeValue
  | quoted (quote : Char)
  | unquoted
  | afterValue
  | slash

/-- A tag that is being read: names and values are kept in reverse, the attribute that is being read
apart from the finished ones. -/
structure TagDraft where
  name : List Char
  finished : List Attribute
  attributeName : List Char
  attributeValue : List Char

namespace TagDraft

/-- Nothing read. -/
def empty : TagDraft := ⟨[], [], [], []⟩

/-- Puts the current attribute, if there is one, to the finished ones, unless one of them has its
name. -/
def finishAttribute (d : TagDraft) : TagDraft :=
  if d.attributeName.isEmpty then d
  else
    let name := String.ofList d.attributeName.reverse
    let value := String.ofList (expandReferences true d.attributeValue.reverse)
    let known := d.finished.any (·.name == name)
    ⟨d.name, if known then d.finished else ⟨name, value, false⟩ :: d.finished, [], []⟩

/-- Begins an attribute. -/
def beginAttribute (d : TagDraft) (c : Char) : TagDraft :=
  { d.finishAttribute with attributeName := [withoutNul c.toLower] }

/-- The tag. -/
def tag (d : TagDraft) (selfClosing : Bool) : Tag :=
  ⟨String.ofList d.name.reverse, d.finishAttribute.finished.reverse, selfClosing⟩

end TagDraft

/-- What a character does inside a tag: it ends the tag, or the reader goes on. -/
inductive TagStep where
  | more (place : TagPlace) (draft : TagDraft)
  | done (tag : Tag)

/-- A character where an attribute may begin. -/
def attributeStep (d : TagDraft) (c : Char) : TagStep :=
  if isSpace c then .more .beforeAttribute d
  else if c = '/' then .more .slash d
  else if c = '>' then .done (d.tag false)
  else .more .attributeName (d.beginAttribute c)

/-- A character of an attribute's value. -/
def valueStep (place : TagPlace) (d : TagDraft) (c : Char) : TagStep :=
  .more place { d with attributeValue := withoutNul c :: d.attributeValue }

/-- A character of a value without quotes. -/
def unquotedStep (d : TagDraft) (c : Char) : TagStep :=
  if isSpace c then .more .beforeAttribute d
  else if c = '>' then .done (d.tag false)
  else valueStep .unquoted d c

/-- One character of a tag. -/
def TagPlace.step (place : TagPlace) (d : TagDraft) (c : Char) : TagStep :=
  match place with
  | .name =>
    if isSpace c then .more .beforeAttribute d
    else if c = '/' then .more .slash d
    else if c = '>' then .done (d.tag false)
    else .more .name { d with name := withoutNul c.toLower :: d.name }
  | .beforeAttribute => attributeStep d c
  | .attributeName =>
    if isSpace c then .more .afterAttributeName d
    else if c = '/' then .more .slash d
    else if c = '=' then .more .beforeValue d
    else if c = '>' then .done (d.tag false)
    else .more .attributeName { d with attributeName := withoutNul c.toLower :: d.attributeName }
  | .afterAttributeName =>
    if isSpace c then .more .afterAttributeName d
    else if c = '=' then .more .beforeValue d
    else attributeStep d c
  | .beforeValue =>
    if isSpace c then .more .beforeValue d
    else if c = '"' ∨ c = '\'' then .more (.quoted c) d
    else unquotedStep d c
  | .quoted quote => if c = quote then .more .afterValue d else valueStep (.quoted quote) d c
  | .unquoted => unquotedStep d c
  | .afterValue => attributeStep d c
  | .slash => if c = '>' then .done (d.tag true) else attributeStep d c

/-- Reads the rest of a tag; `none` if the document ends inside it. -/
def readTag (place : TagPlace) (d : TagDraft) : List Char → Option (Tag × List Char)
  | [] => none
  | c :: rest =>
    match place.step d c with
    | .more place d => readTag place d rest
    | .done tag => some (tag, rest)

/-- What follows a comment, whose opening dashes have been read. -/
def afterCommentText : List Char → List Char
  | [] => []
  | '-' :: '-' :: '>' :: rest => rest
  | '-' :: '-' :: '!' :: '>' :: rest => rest
  | _ :: rest => afterCommentText rest

/-- What follows a comment, whose opening dashes have been read. A comment may close at once. -/
def afterComment : List Char → List Char
  | '>' :: rest => rest
  | '-' :: '>' :: rest => rest
  | s => afterCommentText s

/-- What follows the next closing angle bracket. -/
def afterBracket (s : List Char) : List Char := (s.dropWhile (· != '>')).drop 1

/-- Drops blanks in front. -/
def skipSpaces (s : List Char) : List Char := s.dropWhile isSpace

/-- Reads an identifier in quotes; `none` if there is none at the front. The flag says that its quote
is closed. -/
def readIdentifier? : List Char → Option (String × Bool × List Char)
  | [] => none
  | c :: rest =>
    if c = '"' ∨ c = '\'' then
      let content := rest.takeWhile fun x => x != c && x != '>'
      let after := rest.drop content.length
      some (String.ofList (content.map withoutNul), after.head? == some c, after.drop 1)
    else none

/-- Whether a document type is at its end here; the end of the document is no proper end. -/
def endsType (s : List Char) : Bool := s.head? == some '>'

/-- Reads what follows a system identifier. -/
def readTypeEnd (d : Doctype) (s : List Char) : Doctype × List Char :=
  match skipSpaces s with
  | [] => ({ d with incomplete := true }, [])
  | rest => (d, afterBracket rest)

/-- Reads a system identifier, which is required or may be missing. -/
def readSystemId (required : Bool) (d : Doctype) (s : List Char) : Doctype × List Char :=
  let s := skipSpaces s
  match readIdentifier? s with
  | none => ({ d with incomplete := required || !endsType s }, afterBracket s)
  | some (id, closed, rest) =>
    let d := { d with systemId := some id }
    if closed then readTypeEnd d rest else ({ d with incomplete := true }, rest)

/-- Reads a public identifier and what may follow it. -/
def readPublicId (d : Doctype) (s : List Char) : Doctype × List Char :=
  let s := skipSpaces s
  match readIdentifier? s with
  | none => ({ d with incomplete := true }, afterBracket s)
  | some (id, closed, rest) =>
    let d := { d with publicId := some id }
    if closed then readSystemId false d rest else ({ d with incomplete := true }, rest)

/-- Whether a text begins with a keyword, in either case. -/
def beginsWith (keyword : String) (s : List Char) : Bool :=
  Text.asciiLower (s.take keyword.length) == keyword.toList

/-- Reads a document type after its keyword. -/
def readDoctype (s : List Char) : Doctype × List Char :=
  let s := skipSpaces s
  let name := s.takeWhile fun c => !isSpace c && c != '>'
  if name.isEmpty then (⟨none, none, none, true⟩, s.drop 1)
  else
    let d : Doctype :=
      ⟨some (String.ofList (name.map fun c => withoutNul c.toLower)), none, none, false⟩
    let rest := skipSpaces (s.drop name.length)
    if beginsWith "public" rest then readPublicId d (rest.drop 6)
    else if beginsWith "system" rest then readSystemId true d (rest.drop 6)
    else ({ d with incomplete := !endsType rest }, afterBracket rest)

/-- The text before the end of a literal section and what follows it. -/
def splitSection : List Char → List Char × List Char
  | [] => ([], [])
  | ']' :: ']' :: '>' :: rest => ([], rest)
  | c :: rest =>
    let (text, after) := splitSection rest
    (c :: text, after)

/-- Reads what follows an angle bracket and an exclamation mark. Literal sections count only inside
foreign elements. -/
def readDeclaration (foreign : Bool) (s : List Char) : Token × List Char :=
  match s with
  | '-' :: '-' :: rest => (.comment, afterComment rest)
  | s =>
    if beginsWith "doctype" s then
      let (type, rest) := readDoctype (s.drop 7)
      (.doctype type, rest)
    else if foreign && s.take 7 == "[CDATA[".toList then
      let (text, rest) := splitSection (s.drop 7)
      (.text text, rest)
    else (.comment, afterBracket s)

/-- Whether a name stands at the front of a text, in either case, and ends there. -/
def namesTag (name : String) (s : List Char) : Bool :=
  beginsWith name s &&
    match (s.drop name.length).head? with
    | some c => isSpace c || c == '/' || c == '>'
    | none => false

/-- Whether the end tag of an element stands at the front of a text. -/
def endsElement (name : String) : List Char → Bool
  | '<' :: '/' :: rest => namesTag name rest
  | _ => false

/-- The text up to the end tag of an element, and the rest. -/
def splitRaw (name : String) : List Char → List Char × List Char
  | [] => ([], [])
  | c :: rest =>
    if endsElement name (c :: rest) then ([], c :: rest)
    else
      let (text, after) := splitRaw name rest
      (c :: text, after)

/-- How deep the text of a script is inside a comment: not at all, inside one, or inside a script
that is written in one. -/
inductive ScriptDepth where
  | outside
  | comment
  | inner

/-- The depth after a character with the text that follows it; `dashes` dashes stand just before. -/
def ScriptDepth.next (depth : ScriptDepth) (dashes : Nat) (c : Char) (rest : List Char) :
    ScriptDepth :=
  match depth with
  | .outside => .outside
  | .comment =>
    if c = '>' ∧ 2 ≤ dashes then .outside
    else if c = '<' ∧ namesTag "script" rest then .inner
    else .comment
  | .inner =>
    if c = '>' ∧ 2 ≤ dashes then .outside
    else if endsElement "script" (c :: rest) then .comment
    else .inner

/-- Whether an end tag at this depth ends the script. -/
def ScriptDepth.mayEnd : ScriptDepth → Bool
  | .inner => false
  | _ => true

/-- The text of a script up to its end tag, and the rest. The end tag of a script that is written in
a comment does not count. -/
def splitScript : ScriptDepth → Nat → List Char → List Char × List Char
  | _, _, [] => ([], [])
  | .outside, _, '<' :: '!' :: '-' :: '-' :: rest =>
    let (text, after) := splitScript .comment 2 rest
    ('<' :: '!' :: '-' :: '-' :: text, after)
  | depth, dashes, c :: rest =>
    if depth.mayEnd && endsElement "script" (c :: rest) then ([], c :: rest)
    else
      let (text, after) :=
        splitScript (depth.next dashes c rest) (if c = '-' then dashes + 1 else 0) rest
      (c :: text, after)

/-- The text of an element up to its end tag, as it is written, and the rest. -/
def RawKind.split (kind : RawKind) (name : String) (s : List Char) : List Char × List Char :=
  match kind with
  | .script => splitScript .outside 0 s
  | _ => splitRaw name s

/-- The text of an element, as it is meant. -/
def RawKind.text (kind : RawKind) (s : List Char) : List Char :=
  match kind with
  | .escapable => expandReferences false (s.map withoutNul)
  | _ => s.map withoutNul

/-- Reads an end tag after its slash; what an end tag says beyond its name does not count. -/
def readEndTag (s : List Char) : Option (Token × List Char) :=
  (readTag .name TagDraft.empty s).map fun (tag, rest) => (.endTag tag.name, rest)

/-- Reads the piece that begins with an angle bracket, which has been read. -/
def readBracket (foreign : Bool) (s : List Char) : Option (Token × List Char) :=
  match s with
  | '!' :: rest => some (readDeclaration foreign rest)
  | '?' :: rest => some (.comment, afterBracket rest)
  | '/' :: rest =>
    match rest with
    | [] => some (.text ['<', '/'], [])
    | '>' :: rest => some (.text [], rest)
    | c :: _ => if Text.isAsciiLetter c then readEndTag rest else some (.comment, afterBracket rest)
  | c :: _ =>
    if Text.isAsciiLetter c then
      (readTag .name TagDraft.empty s).map fun (tag, rest) => (.startTag tag, rest)
    else some (.text ['<'], s)
  | [] => some (.text ['<'], [])

/-- Reads the next piece of markup. -/
def readMarkup (foreign : Bool) (s : List Char) : Option (Token × List Char) :=
  match s with
  | [] => none
  | '<' :: rest => readBracket foreign rest
  | s =>
    let text := s.takeWhile (· != '<')
    some (.text (expandReferences false text), s.drop text.length)

/-- Reads the next piece of a document; `none` if there is no further one. -/
def Token.next? (content : Content) (foreign : Bool) (s : List Char) :
    Option (Token × List Char) :=
  match content with
  | .markup => readMarkup foreign s
  | .plain => if s.isEmpty then none else some (.text (s.map withoutNul), [])
  | .raw kind name =>
    let (inner, rest) := kind.split name s
    if !inner.isEmpty then some (.text (kind.text inner), rest)
    else if rest.isEmpty then none
    else readEndTag (rest.drop 2)

/-- The characters of a document as they are read: without a byte order mark in front, and with one
line feed for every end of a line. -/
def documentChars (s : String) : List Char :=
  let s := match s.toList with
    | c :: rest => if c.toNat = 0xfeff then rest else c :: rest
    | [] => []
  Text.replace ['\r'] ['\n'] (Text.replace ['\r', '\n'] ['\n'] s)

/-- Reads pieces of markup until no further one is found. Every piece takes a character, so that
`fuel` is enough if it is not less than the length of the text. -/
def readMarkupTokens : Nat → List Char → List Token
  | 0, _ => []
  | fuel + 1, s =>
    match Token.next? .markup false s with
    | none => []
    | some (t, rest) => t :: readMarkupTokens fuel rest

/-- The pieces of a text that is markup throughout. -/
def Token.ofMarkup (s : String) : List Token :=
  let chars := documentChars s
  readMarkupTokens chars.length chars

end SiteTech.Html
