import SiteTech.Report

namespace SiteTech

/-- A technology that has been found, with the version and the confidence known of it. -/
structure Detection where
  technology : Technology
  version : String
  confidence : UInt32

/-- The finding that a report gives for a detection. -/
def Detection.finding (d : Detection) : Finding :=
  { slug := d.technology.slug
    name := d.technology.name
    confidence := d.confidence
    version := d.version
    icon := d.technology.icon
    website := d.technology.website
    cpe := d.technology.cpe
    categories := d.technology.categories }

/-- The detections of an analysis. -/
structure DetectionStore where
  table : Table String Detection

/-- A sign of a technology: the version and the confidence that it speaks for. -/
structure Hit where
  technology : Technology
  version : String
  confidence : UInt32

/-- What a detection becomes by another sign of its technology: the first version that is not empty
stays, and the confidence never falls. -/
def Detection.merge (d : Detection) (h : Hit) : Detection :=
  { d with
    version := if d.version.isEmpty && !h.version.isEmpty then h.version else d.version
    confidence := if d.confidence < h.confidence then h.confidence else d.confidence }

/-- What is known of a technology after a sign of it. -/
def Detection.after (old : Option Detection) (h : Hit) : Detection :=
  match old with
  | none => ⟨h.technology, h.version, h.confidence⟩
  | some d => d.merge h

namespace DetectionStore

/-- The store without detections. -/
def empty : DetectionStore := ⟨Table.empty⟩

/-- Records a sign. -/
def add (s : DetectionStore) (h : Hit) : DetectionStore :=
  ⟨s.table.alter h.technology.name fun old => Detection.after old h⟩

/-- Records signs in their order. -/
def addAll (s : DetectionStore) (hits : List Hit) : DetectionStore := hits.foldl add s

/-- Drops a technology. -/
def remove (s : DetectionStore) (name : String) : DetectionStore := ⟨s.table.erase name⟩

/-- Whether a technology has been found. -/
def contains (s : DetectionStore) (name : String) : Bool := s.table.contains name

/-- Drops a technology, and tells whether it was there. -/
def takeOut (s : DetectionStore) (name : String) : Bool × DetectionStore :=
  ((s.table.get? name).isSome, s.remove name)

/-- The detection of a technology. -/
def get? (s : DetectionStore) (name : String) : Option Detection := s.table.get? name

/-- The number of detections. -/
def size (s : DetectionStore) : Nat := s.table.size

/-- Whether nothing has been found. -/
def isEmpty (s : DetectionStore) : Bool := s.table.isEmpty

/-- The names of the technologies found, in order. -/
def names (s : DetectionStore) : List String := s.table.keys

/-- The findings, in the order of their names. -/
def findings (s : DetectionStore) : List Finding := s.table.values.map Detection.finding

end DetectionStore

end SiteTech
