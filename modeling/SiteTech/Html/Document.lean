import SiteTech.Html.Token

namespace SiteTech.Html

/-- The vocabularies that elements belong to. -/
inductive Vocabulary where
  | html
  | svg
  | math
deriving DecidableEq, Repr, Inhabited

/-- An element. -/
structure Element where
  vocabulary : Vocabulary
  name : String
  attributes : List Attribute
deriving DecidableEq, Repr, Inhabited

namespace Element

/-- Whether the element is one of the named elements of the main vocabulary. -/
def isOneOf (e : Element) (names : List String) : Bool :=
  e.vocabulary == .html && names.contains e.name

/-- The value of an attribute without qualification. -/
def attribute? (e : Element) (name : String) : Option String :=
  (e.attributes.find? fun a => !a.qualified && a.name == name).map (·.value)

/-- The identifier of the element. -/
def id? (e : Element) : Option String :=
  (e.attributes.find? fun a => a.name == "id").map (·.value)

/-- The element with further attributes, of which those that it has already do not count. -/
def addAttributes (e : Element) (more : List Attribute) : Element :=
  { e with
    attributes := more.foldl
      (fun known a =>
        if known.any fun b => b.name == a.name && b.qualified == a.qualified then known
        else known ++ [a])
      e.attributes }

end Element

/-- The number of a node. -/
abbrev NodeId : Type := Nat

/-- What a node is: the document itself, the content of a template, an element or text. -/
inductive NodeKind where
  | document
  | content
  | element (element : Element)
  | text (text : String)
deriving DecidableEq, Repr, Inhabited

/-- A node, with its place in the tree. -/
structure Node where
  kind : NodeKind
  parent : Option NodeId
  children : List NodeId
deriving Repr, Inhabited

/-- The element of a node. -/
def Node.element? (n : Node) : Option Element :=
  match n.kind with
  | .element e => some e
  | _ => none

/-- Whether a node is text. -/
def Node.isText (n : Node) : Bool :=
  match n.kind with
  | .text _ => true
  | _ => false

/-- A document. Its first node is the document itself. The nodes are numbered in the order in which they
were made, and one that is taken out of its place only stands apart. Comments and document types are not
kept, since nothing that is asked of a document depends on them. -/
structure Document where
  nodes : Array Node
deriving Inhabited

namespace Document

/-- The node of the document itself. -/
def root : NodeId := 0

/-- The document without content. -/
def empty : Document := ⟨#[⟨.document, none, []⟩]⟩

/-- A node. -/
def get? (d : Document) (id : NodeId) : Option Node := d.nodes[id]?

/-- The element of a node. -/
def element? (d : Document) (id : NodeId) : Option Element := (d.get? id).bind Node.element?

/-- The parent of a node. -/
def parent? (d : Document) (id : NodeId) : Option NodeId := (d.get? id).bind (·.parent)

/-- The children of a node. -/
def children (d : Document) (id : NodeId) : List NodeId :=
  match d.get? id with
  | some n => n.children
  | none => []

/-- Changes a node. -/
def modify (d : Document) (id : NodeId) (f : Node → Node) : Document := ⟨d.nodes.modify id f⟩

/-- Makes a node that has no place yet. -/
def make (d : Document) (kind : NodeKind) : Document × NodeId :=
  (⟨d.nodes.push ⟨kind, none, []⟩⟩, d.nodes.size)

/-- Takes a node out of its place. -/
def detach (d : Document) (id : NodeId) : Document :=
  match d.parent? id with
  | none => d
  | some p =>
    (d.modify p fun n => { n with children := n.children.filter (· != id) }).modify id fun n =>
      { n with parent := none }

/-- Puts a node at the end of another. -/
def append (d : Document) (parent id : NodeId) : Document :=
  ((d.detach id).modify parent fun n => { n with children := n.children ++ [id] }).modify id fun n =>
    { n with parent := some parent }

/-- Puts a number in front of another in a list. -/
def placeBefore (sibling id : NodeId) : List NodeId → List NodeId
  | [] => []
  | x :: rest => if x = sibling then id :: x :: rest else x :: placeBefore sibling id rest

/-- Puts a node in front of another that has a place. -/
def insertBefore (d : Document) (sibling id : NodeId) : Document :=
  let d := d.detach id
  match d.parent? sibling with
  | none => d
  | some p =>
    (d.modify p fun n => { n with children := placeBefore sibling id n.children }).modify id fun n =>
      { n with parent := some p }

/-- Moves all children of a node to the end of another. -/
def moveChildren (d : Document) (source target : NodeId) : Document :=
  (d.children source).foldl (fun d id => d.append target id) d

/-- Adds to a text. -/
def extendText (d : Document) (id : NodeId) (more : String) : Document :=
  d.modify id fun n =>
    match n.kind with
    | .text s => { n with kind := .text (s ++ more) }
    | _ => n

/-- Whether a node is text. -/
def isText (d : Document) (id : NodeId) : Bool :=
  match d.get? id with
  | some n => n.isText
  | none => false

/-- Puts text at the end of a node, as part of a text that is there. -/
def appendText (d : Document) (parent : NodeId) (text : String) : Document :=
  match (d.children parent).getLast?.filter d.isText with
  | some last => d.extendText last text
  | none =>
    let (d, id) := d.make (.text text)
    d.append parent id

/-- The sibling just before a node. -/
def previous? (d : Document) (id : NodeId) : Option NodeId :=
  match d.parent? id with
  | none => none
  | some p => ((d.children p).takeWhile (· != id)).getLast?

/-- Puts text in front of a node that has a place, as part of a text that is there. -/
def insertTextBefore (d : Document) (sibling : NodeId) (text : String) : Document :=
  match (d.previous? sibling).filter d.isText with
  | some before => d.extendText before text
  | none =>
    let (d, id) := d.make (.text text)
    d.insertBefore sibling id

/-- The texts in a node, in order. `fuel` bounds the depth. -/
def textsFrom (d : Document) : Nat → NodeId → List String
  | 0, _ => []
  | fuel + 1, id =>
    match d.get? id with
    | none => []
    | some n =>
      match n.kind with
      | .text s => [s]
      | _ => n.children.flatMap (d.textsFrom fuel)

/-- All text in a node. -/
def text (d : Document) (id : NodeId) : String := String.join (d.textsFrom d.nodes.size id)

/-- The elements that have a place, in the order in which they were made. -/
def elements (d : Document) : List NodeId :=
  (List.range d.nodes.size).filter fun id => (d.element? id).isSome && (d.parent? id).isSome

end Document

end SiteTech.Html
