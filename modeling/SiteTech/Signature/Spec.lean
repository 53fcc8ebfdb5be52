import SiteTech.Json.Value
import SiteTech.Signature.Pattern

namespace SiteTech

/-- Signatures by the name of what they look at. -/
abbrev PatternTable := Table String (List Pattern)

/-- The name for signatures that are given without one. -/
def mainKey : String := "main"

/-- What a rule may give for one name of a channel. -/
inductive SpecEntry where
  | single (text : String)
  | list (texts : List String)
  | unsupported

/-- What a rule may give for a channel. -/
inductive Spec where
  | single (text : String)
  | list (texts : List String)
  | keyed (entries : Table String SpecEntry)
  | unsupported

/-- Reads what is given for one name. -/
def SpecEntry.ofValue (v : Json.Value) : SpecEntry :=
  match v with
  | .string s => .single s
  | v =>
    match v.strings? with
    | some texts => .list texts
    | none => .unsupported

/-- The signatures of one name, if it is given in a form that is known. -/
def SpecEntry.patterns? : SpecEntry → Option (List Pattern)
  | .single s => some [Pattern.ofText s]
  | .list texts => some (texts.map Pattern.ofText)
  | .unsupported => none

namespace Spec

/-- Reads what is given for a channel. -/
def ofValue (v : Json.Value) : Spec :=
  match v with
  | .string s => .single s
  | .object members => .keyed ((Json.Value.table members).mapValues SpecEntry.ofValue)
  | v =>
    match v.strings? with
    | some texts => .list texts
    | none => .unsupported

/-- The signatures of a channel. What is given in an unknown form counts for nothing. -/
def patterns : Spec → PatternTable
  | .single s => Table.empty.insert mainKey [Pattern.ofText s]
  | .list texts => Table.empty.insert mainKey (texts.map Pattern.ofText)
  | .keyed entries =>
    Table.ofList (entries.toList.filterMap fun (k, e) => e.patterns?.map (k, ·))
  | .unsupported => Table.empty

/-- The signatures of a channel that may be missing. -/
def patternsOf (spec : Option Spec) : PatternTable :=
  match spec with
  | some s => s.patterns
  | none => Table.empty

end Spec

namespace PatternTable

/-- All signatures of a table, in the order of their names. -/
def all (t : PatternTable) : List Pattern := t.values.flatten

/-- The number of signatures in a table. -/
def count (t : PatternTable) : Nat := t.values.flatten.length

end PatternTable

end SiteTech
