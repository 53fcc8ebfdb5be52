import SiteTech.Certificate.Time
import SiteTech.Text.Utf8

namespace SiteTech.Certificate

/-- An attribute of a name: its kind and its value. -/
structure NameAttribute where
  kind : List UInt8
  value : Element

/-- The kind of the attributes that name an organisation. -/
def organizationKind : List UInt8 := [0x55, 0x04, 0x0a]

/-- The text of an attribute. Only texts of ASCII and of UTF-8 have one. -/
def NameAttribute.text? (a : NameAttribute) : Option String :=
  if [Tag.utf8String, Tag.numericString, Tag.printableString, Tag.ia5String].contains
      a.value.header.tag then
    Text.decode? a.value.content
  else none

/-- Reads an attribute. -/
def NameAttribute.read : Reader NameAttribute :=
  readInside Tag.sequence do return ⟨← readObjectId, ← Element.read⟩

/-- Reads a set of attributes, one at least. -/
def readAttributeSet : Reader (List NameAttribute) :=
  readInside Tag.set do
    let attributes ← NameAttribute.read.many
    require !attributes.isEmpty
    return attributes

/-- Reads a name. A set that cannot be read ends it. -/
def readName : Reader (List NameAttribute) :=
  readInside Tag.sequence do return (← readAttributeSet.many).flatten

/-- Reads the name of an algorithm and perhaps its parameters. -/
def readAlgorithm : Reader Unit :=
  readInside Tag.sequence do
    let _ ← readObjectId
    if ← atEnd then return () else let _ ← Element.read; return ()

/-- Reads the version, if there is one. -/
def readVersion : Reader Unit := do
  let before ← get
  let e ← Element.read
  if e.header.tag = 0 then
    require (e.header.tagClass = contextClass)
    let _ ← StateT.lift (readWord.within e.content)
  else set before

/-- Reads the bit string that stands in the place of a number, if there is one. -/
def readUniqueId (place : Nat) : Reader Unit := do
  if ← atEnd then return ()
  let before ← get
  let header ← Header.read
  if header.tagClass = contextClass ∧ header.tag = place then
    let content ← readBytes header.length
    require (!header.constructed && isBitString content)
  else set before

/-- Reads whether an extension is critical, if it says so. -/
def readCritical : Reader Unit := do
  let before ← get
  let e ← Element.read
  if e.header.tag = Tag.boolean ∧ e.content.length = 1 then return () else set before

/-- Reads an extension. -/
def readExtension : Reader Unit :=
  readInside Tag.sequence do
    let _ ← readObjectId
    readCritical
    let _ ← readPrimitive Tag.octetString

/-- Reads the extensions, if there are any. They are the last part. -/
def readExtensions : Reader Unit := do
  if ← atEnd then return ()
  let header ← Header.read
  require (header.tag = 3)
  let list ← readTagged Tag.sequence
  require (← atEnd)
  let _ ← StateT.lift (readExtension.many.allOf list.content)

/-- Reads the part of a certificate that is signed, and gives the name of the issuer. -/
def readSigned : Reader (List NameAttribute) :=
  readInside Tag.sequence do
    readVersion
    let _ ← readTagged Tag.integer
    readAlgorithm
    let issuer ← readName
    readInside Tag.sequence do readTime; readTime
    let _ ← readName
    readInside Tag.sequence do readAlgorithm; readBitString
    readUniqueId 1
    readUniqueId 2
    readExtensions
    return issuer

/-- Reads a certificate, and gives the name of the issuer. -/
def readCertificate : Reader (List NameAttribute) :=
  readInside Tag.sequence do
    let issuer ← readSigned
    readAlgorithm
    readBitString
    return issuer

/-- The organisations that have issued a certificate, none if it cannot be read. -/
def issuerOrganizations (bytes : List UInt8) : List String :=
  match readCertificate.within bytes with
  | some issuer => (issuer.filter fun a => a.kind == organizationKind).filterMap NameAttribute.text?
  | none => []

end SiteTech.Certificate
