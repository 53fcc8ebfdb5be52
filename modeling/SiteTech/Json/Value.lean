import SiteTech.Json.Number
import SiteTech.Table

namespace SiteTech.Json

/-- A document. -/
inductive Value where
  | null
  | bool (b : Bool)
  | number (n : Number)
  | string (s : String)
  | array (items : List Value)
  | object (members : List (String × Value))
deriving Repr, Inhabited

namespace Value

/-- The members of an object as a map. -/
def table (members : List (String × Value)) : Table String Value := Table.ofList members

/-- The value of a member of an object. -/
def get? (v : Value) (name : String) : Option Value :=
  match v with
  | object members => (table members).get? name
  | _ => none

/-- The text of a string. -/
def string? : Value → Option String
  | string s => some s
  | _ => none

/-- The texts of an array of strings. -/
def strings? : Value → Option (List String)
  | array items => items.mapM string?
  | _ => none

/-- A whole number as a value. -/
def ofNat (n : Nat) : Value := number (.whole n)

end Value

/-- A document as it was read. Its strings and numbers may be faulty, and its objects may name a member
twice. Such a fault counts only where the part is used. -/
inductive Raw where
  | null
  | bool (b : Bool)
  | number (n : Option Number)
  | string (s : Option String)
  | array (items : List Raw)
  | object (members : List (Option String × Raw))
deriving Inhabited

namespace Raw

mutual

/-- The value of a tree without faults whose arrays and objects are nested at most `depth` deep.
Members of an object come in the order of their names, and a later one wins. -/
def value? : Nat → Raw → Option Value
  | _, .null => some .null
  | _, .bool b => some (.bool b)
  | _, .number n => n.map .number
  | _, .string s => s.map .string
  | depth, .array items =>
    match depth with
    | 0 => none
    | d + 1 => (values? d items).map .array
  | depth, .object members =>
    match depth with
    | 0 => none
    | d + 1 => (members? d members).map fun l => .object (Value.table l).toList

/-- The values of a list of trees. -/
def values? (depth : Nat) : List Raw → Option (List Value)
  | [] => some []
  | r :: rest => do
    let v ← value? depth r
    let vs ← values? depth rest
    return v :: vs

/-- The values of a list of members. -/
def members? (depth : Nat) : List (Option String × Raw) → Option (List (String × Value))
  | [] => some []
  | (k, r) :: rest => do
    let name ← k
    let v ← value? depth r
    let vs ← members? depth rest
    return (name, v) :: vs

end

/-- The greatest depth of nested arrays and objects that a document may have. -/
def maxDepth : Nat := 127

/-- Adds a member to those of a record, unless the record has it. -/
def addField (fields : List (String × Raw)) (name : String) (r : Raw) :
    Option (List (String × Raw)) :=
  if fields.any (·.1 == name) then none else some (fields ++ [(name, r)])

/-- The members of an object that a record knows. Others are passed over; a member given twice,
or a name that is no text, is a fault. -/
def knownFields (names : List String) : List (Option String × Raw) → List (String × Raw) →
    Option (List (String × Raw))
  | [], fields => some fields
  | (k, r) :: rest, fields => do
    let name ← k
    if names.contains name then
      let fields ← addField fields name r
      knownFields names rest fields
    else knownFields names rest fields

/-- The fields of a record, written as an object or as an array of the fields in their order.
Fields may be missing, but an array may not have more items than there are fields. -/
def fields? (names : List String) : Raw → Option (List (String × Raw))
  | .object members => knownFields names members []
  | .array items => if items.length ≤ names.length then some (names.zip items) else none
  | _ => none

/-- The entries of an object read as a map. -/
def entries? : Raw → Option (List (String × Raw))
  | .object members => members.mapM fun m => m.1.map (·, m.2)
  | _ => none

/-- The items of an array. -/
def items? : Raw → Option (List Raw)
  | .array items => some items
  | _ => none

/-- The text of a string. -/
def string? : Raw → Option String
  | .string s => s
  | _ => none

/-- A whole number between two bounds. -/
def wholeIn? (lo hi : Int) : Raw → Option Int
  | .number (some (.whole n)) => if lo ≤ n ∧ n ≤ hi then some n else none
  | _ => none

end Raw

end SiteTech.Json
