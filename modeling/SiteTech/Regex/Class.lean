import SiteTech.Regex.Syntax
import SiteTech.Text.Category
import SiteTech.Text.Script
import SiteTech.Text.Property
import SiteTech.Text.Word

namespace SiteTech.Regex

open Text (Ranges)

/-- A set of ranges as a class. -/
def CharSet.ofTable (r : Ranges) : CharSet := ⟨r.toList⟩

/-- Looks a name up in a table of named sets. -/
def findNamed (table : List (List String × Ranges)) (name : String) : Option CharSet :=
  (table.find? fun e => e.1.contains name).map fun e => CharSet.ofTable e.2

/-- The characters of a list of general categories. -/
def ofCategories (names : List String) : CharSet :=
  names.foldl (fun s n => s.union ((findNamed Text.categories n).getD CharSet.none)) CharSet.none

/-- Decimal digits. -/
def digits : CharSet := ofCategories ["nd"]

/-- Blank characters. -/
def blanks : CharSet := (findNamed Text.properties "whitespace").getD CharSet.none

/-- Word characters. -/
def wordChars : CharSet := CharSet.ofTable Text.wordRanges

/-- The class of a letter escape, `none` when it is not a class of ASCII characters though it has to
be. -/
def perlClass (unicode : Bool) (c : Char) : Option CharSet :=
  let base : CharSet :=
    if c.toLower = 'd' then if unicode then digits else .range 0x30 0x39
    else if c.toLower = 's' then if unicode then blanks else ⟨[(9, 13), (32, 32)]⟩
    else if unicode then wordChars
    else ⟨[(0x30, 0x39), (0x41, 0x5a), (0x5f, 0x5f), (0x61, 0x7a)]⟩
  if c.isUpper then if unicode then some base.compl else none else some base

/-- The ASCII classes in double brackets. -/
def bracketClasses : List (String × CharSet) :=
  [("alnum", ⟨[(0x30, 0x39), (0x41, 0x5a), (0x61, 0x7a)]⟩),
   ("alpha", ⟨[(0x41, 0x5a), (0x61, 0x7a)]⟩),
   ("ascii", ⟨[(0, 0x7f)]⟩),
   ("blank", ⟨[(9, 9), (32, 32)]⟩),
   ("cntrl", ⟨[(0, 0x1f), (0x7f, 0x7f)]⟩),
   ("digit", ⟨[(0x30, 0x39)]⟩),
   ("graph", ⟨[(0x21, 0x7e)]⟩),
   ("lower", ⟨[(0x61, 0x7a)]⟩),
   ("print", ⟨[(0x20, 0x7e)]⟩),
   ("punct", ⟨[(0x21, 0x2f), (0x3a, 0x40), (0x5b, 0x60), (0x7b, 0x7e)]⟩),
   ("space", ⟨[(9, 13), (32, 32)]⟩),
   ("upper", ⟨[(0x41, 0x5a)]⟩),
   ("word", ⟨[(0x30, 0x39), (0x41, 0x5a), (0x5f, 0x5f), (0x61, 0x7a)]⟩),
   ("xdigit", ⟨[(0x30, 0x39), (0x41, 0x46), (0x61, 0x66)]⟩)]

/-- A property name without the characters that do not count, in lower case. -/
def looseName (s : List Char) : String :=
  let s := match s with
    | a :: b :: rest => if a.toLower = 'i' ∧ b.toLower = 's' then rest else s
    | _ => s
  let kept := (s.filter fun c => c != ' ' && c != '_' && c != '-' && c.toNat < 128).map Char.toLower
  String.ofList (if kept = ['c'] ∧ s.length ≠ 1 then ['i', 's', 'c'] else kept)

/-- Groups of general categories. -/
def categoryGroups : List (List String × List String) :=
  [(["l", "letter"], ["lu", "ll", "lt", "lm", "lo"]),
   (["lc", "casedletter"], ["lu", "ll", "lt"]),
   (["m", "mark", "combiningmark"], ["mn", "mc", "me"]),
   (["n", "number"], ["nd", "nl", "no"]),
   (["p", "punctuation", "punct"], ["pc", "pd", "ps", "pe", "pi", "pf", "po"]),
   (["s", "symbol"], ["sm", "sc", "sk", "so"]),
   (["z", "separator"], ["zs", "zl", "zp"]),
   (["c", "other"], ["cc", "cf", "cs", "co", "cn"])]

/-- The class of a general category or a group of them. -/
def categoryClass (name : String) : Option CharSet :=
  if name = "any" then some (.range 0 CharSet.lastPoint)
  else if name = "ascii" then some (.range 0 0x7f)
  else if name = "assigned" then (findNamed Text.categories "cn").map CharSet.compl
  else
    match categoryGroups.find? fun e => e.1.contains name with
    | some (_, parts) => some (ofCategories parts)
    | none => findNamed Text.categories name

/-- The class of a property that is named alone. -/
def propertyClass (s : List Char) : Option CharSet :=
  let name := looseName s
  let binary :=
    if name = "cf" ∨ name = "sc" ∨ name = "lc" then none else findNamed Text.properties name
  match binary with
  | some c => some c
  | none =>
    match categoryClass name with
    | some c => some c
    | none => findNamed Text.scripts name

/-- The class of a property with a value. -/
def propertyValueClass (name value : List Char) : Option CharSet :=
  let name := looseName name
  let value := looseName value
  if name = "gc" ∨ name = "generalcategory" then categoryClass value
  else if name = "sc" ∨ name = "script" then findNamed Text.scripts value
  else none

end SiteTech.Regex
