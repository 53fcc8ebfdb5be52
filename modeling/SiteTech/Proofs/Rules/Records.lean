import SiteTech.Rules.Library
import SiteTech.Proofs.Table

namespace SiteTech

open Json (Raw)

/-- A record is another one with a value put in a field, be it over an old value or as a new field. -/
def PutsField (names : List String) (field : String) (v r r' : Raw) : Prop :=
  ∃ fields fields', r.fields? names = some fields ∧ r'.fields? names = some fields' ∧
    fieldOf fields' field = some v ∧ ∀ other, other ≠ field → fieldOf fields' other = fieldOf fields other

section Fields

variable {α : Type} {fields fields' : List (String × Raw)} {name : String} {default : α} {read : Raw → Option α}

theorem readField_of_fieldOf {r : Raw} (h : fieldOf fields name = some r) :
    readField fields name default read = read r := by
  rw [readField, h]

theorem readField_congr (h : fieldOf fields' name = fieldOf fields name) :
    readField fields' name default read = readField fields name default read := by
  rw [readField, readField, h]

end Fields

namespace Json.Raw

variable {names : List String} {field : String} {v : Raw}

private theorem knownFields_append (l l' : List (Option String × Raw)) (acc : List (String × Raw)) :
    knownFields names (l ++ l') acc = (knownFields names l acc).bind (knownFields names l') := by
  induction l generalizing acc with
  | nil => rfl
  | cons m rest ih =>
    obtain ⟨k, r⟩ := m
    cases k with
    | none => rfl
    | some name =>
      simp only [List.cons_append, knownFields, Option.bind_eq_bind, Option.bind_some]
      split
      · cases addField acc name r with
        | none => rfl
        | some acc => exact ih acc
      · exact ih acc

private theorem any_eq_false_iff {fields : List (String × Raw)} :
    fields.any (·.1 == field) = false ↔ fieldOf fields field = none := by
  rw [List.any_eq_false, fieldOf, Option.map_eq_none_iff, List.find?_eq_none]

theorem fieldOf_append_cons_self {fields : List (String × Raw)} (h : fieldOf fields field = none)
    (more : List (String × Raw)) : fieldOf (fields ++ (field, v) :: more) field = some v := by
  rw [fieldOf, List.find?_append, Option.map_eq_none_iff.1 h, List.find?_cons, beq_self_eq_true]
  rfl

theorem fieldOf_append_cons_of_ne {other : String} (h : other ≠ field) (fields more : List (String × Raw)) :
    fieldOf (fields ++ (field, v) :: more) other = fieldOf (fields ++ more) other := by
  have hne : (field == other) = false := beq_eq_false_iff_ne.2 (Ne.symm h)
  rw [fieldOf, fieldOf, List.find?_append, List.find?_append, List.find?_cons, hne]

/-- What is known of further members goes by the names of the fields before them alone. -/
private theorem exists_knownFields_eq {l : List (Option String × Raw)} {acc fields : List (String × Raw)}
    (h : knownFields names l acc = some fields) (acc' : List (String × Raw)) (hacc : acc'.map (·.1) = acc.map (·.1)) :
    ∃ more, fields = acc ++ more ∧ knownFields names l acc' = some (acc' ++ more) := by
  induction l generalizing acc acc' with
  | nil =>
    cases h
    exact ⟨[], (List.append_nil _).symm, by rw [knownFields, List.append_nil]⟩
  | cons m rest ih =>
    obtain ⟨k, r⟩ := m
    obtain ⟨name, rfl, hrest⟩ := Option.bind_eq_some_iff.1 h
    rw [knownFields, Option.bind_eq_bind, Option.bind_some]
    split at hrest
    · rename_i hknown
      obtain ⟨next, hnext, hrest⟩ := Option.bind_eq_some_iff.1 hrest
      have hnames : acc'.any (·.1 == name) = acc.any (·.1 == name) := by
        have hmap := congrArg (fun l => l.any (· == name)) hacc
        simpa only [List.any_map, Function.comp_def] using hmap
      rw [addField] at hnext
      split at hnext
      · cases hnext
      · rename_i hnew
        cases hnext
        obtain ⟨more, rfl, hmore⟩ := ih hrest (acc' ++ [(name, r)]) (by simp [hacc])
        refine ⟨(name, r) :: more, by simp, ?_⟩
        rw [if_pos hknown, addField, hnames, if_neg hnew, Option.bind_eq_bind, Option.bind_some, hmore]
        simp
    · rename_i hunknown
      rw [if_neg hunknown]
      exact ih hrest acc' hacc

/-- The fields of an object with one more member of a name that is known. -/
private theorem fields?_append_cons {front back : List (Option String × Raw)} (hname : field ∈ names) :
    (object (front ++ (some field, v) :: back)).fields? names =
      (knownFields names front []).bind fun fields =>
        (addField fields field v).bind (knownFields names back) := by
  rw [fields?, knownFields_append]
  congr 1
  funext fields
  simp [knownFields, hname]

/-- A member at the end of an object that has no member of its name is a new field. -/
theorem putsField_append {members : List (Option String × Raw)} {fields : List (String × Raw)}
    (hfields : (object members).fields? names = some fields) (hnone : fieldOf fields field = none)
    (hname : field ∈ names) :
    PutsField names field v (object members) (object (members ++ [(some field, v)])) := by
  refine ⟨fields, fields ++ [(field, v)], hfields, ?_, fieldOf_append_cons_self hnone [], fun other hother => ?_⟩
  · rw [fields?] at hfields
    rw [fields?_append_cons hname, hfields, Option.bind_some, addField, any_eq_false_iff.2 hnone]
    rfl
  · rw [fieldOf_append_cons_of_ne hother, List.append_nil]

/-- A value in the place of the value of a member is put over the field. -/
theorem putsField_replace (front back : List (Option String × Raw)) {old : Raw} {fields : List (String × Raw)}
    (hfields : (object (front ++ (some field, old) :: back)).fields? names = some fields) (hname : field ∈ names) :
    PutsField names field v (object (front ++ (some field, old) :: back))
      (object (front ++ (some field, v) :: back)) := by
  have h := hfields
  rw [fields?_append_cons hname] at h
  obtain ⟨before, hbefore, h⟩ := Option.bind_eq_some_iff.1 h
  obtain ⟨next, hnext, h⟩ := Option.bind_eq_some_iff.1 h
  rw [addField] at hnext
  split at hnext
  · cases hnext
  · rename_i hnew
    cases hnext
    have hnone : fieldOf before field = none := any_eq_false_iff.1 (Bool.eq_false_iff.2 hnew)
    obtain ⟨more, rfl, hmore⟩ := exists_knownFields_eq h (before ++ [(field, v)]) (by simp)
    rw [List.append_assoc, List.singleton_append] at hmore hfields
    refine ⟨_, before ++ (field, v) :: more, hfields, ?_, fieldOf_append_cons_self hnone more, fun other hother => ?_⟩
    · rw [fields?_append_cons hname, hbefore, Option.bind_some, addField, if_neg hnew]
      exact hmore
    · rw [fieldOf_append_cons_of_ne hother, fieldOf_append_cons_of_ne hother]

end Json.Raw

/-- A map is another one with another value for a key, in the place of the last entry of the key. -/
def PutsEntry (key : String) (old new r r' : Raw) : Prop :=
  ∃ front back, r.entries? = some (front ++ (key, old) :: back) ∧
    r'.entries? = some (front ++ (key, new) :: back) ∧ key ∉ back.map (·.1)

namespace RuleLibrary

variable {α : Type} {read : Raw → Option α}

/-- Reads the value of an entry. -/
private abbrev readEntry (read : Raw → Option α) (e : String × Raw) : Option (String × α) :=
  (read e.2).map (e.1, ·)

private theorem keys_of_mapM_readEntry {l : List (String × Raw)} {values : List (String × α)}
    (h : l.mapM (readEntry read) = some values) : values.map (·.1) = l.map (·.1) := by
  induction l generalizing values with
  | nil =>
    cases h
    rfl
  | cons e rest ih =>
    rw [List.mapM_cons] at h
    obtain ⟨w, hw, h⟩ := Option.bind_eq_some_iff.1 h
    obtain ⟨others, hothers, hcons⟩ := Option.bind_eq_some_iff.1 h
    obtain ⟨a, -, rfl⟩ := Option.map_eq_some_iff.1 hw
    cases hcons
    rw [List.map_cons, List.map_cons, ih hothers]

variable {key : String} {v r : Raw} {front back : List (String × Raw)}

private theorem exists_mapM_of_readMap {t : Table String α} (hentries : r.entries? = some (front ++ (key, v) :: back))
    (ht : readMap read r = some t) :
    ∃ before after, front.mapM (readEntry read) = some before ∧ back.mapM (readEntry read) = some after := by
  obtain ⟨entries, heq, h⟩ := Option.bind_eq_some_iff.1 ht
  rw [hentries, Option.some.injEq] at heq
  subst heq
  obtain ⟨values, hvalues, -⟩ := Option.bind_eq_some_iff.1 h
  rw [List.mapM_append, List.mapM_cons] at hvalues
  obtain ⟨before, hbefore, h⟩ := Option.bind_eq_some_iff.1 hvalues
  obtain ⟨rest, hrest, -⟩ := Option.bind_eq_some_iff.1 h
  obtain ⟨w, -, h⟩ := Option.bind_eq_some_iff.1 hrest
  obtain ⟨after, hafter, -⟩ := Option.bind_eq_some_iff.1 h
  exact ⟨before, after, hbefore, hafter⟩

/-- Of the entries of a key the last one is read last, over what the others have given. -/
private theorem readMap_append_cons {before after : List (String × α)}
    (hbefore : front.mapM (readEntry read) = some before) (hafter : back.mapM (readEntry read) = some after)
    (hkey : key ∉ back.map (·.1)) (hentries : r.entries? = some (front ++ (key, v) :: back)) :
    readMap read r = (read v).map ((Table.ofList (before ++ after)).insert key) := by
  have hvalues : (front ++ (key, v) :: back).mapM (readEntry read) =
      (read v).map fun a => before ++ (key, a) :: after := by
    rw [List.mapM_append, List.mapM_cons, hbefore, hafter, readEntry]
    cases read v <;> rfl
  have hread : readMap read r = ((front ++ (key, v) :: back).mapM (readEntry read)).map Table.ofList := by
    rw [readMap, hentries]
    exact Option.map_eq_bind.symm
  rw [← keys_of_mapM_readEntry hafter] at hkey
  rw [hread, hvalues, Option.map_map]
  exact congrArg (Option.map · (read v)) (funext fun a => Table.ofList_append_cons a hkey)

/-- What is read of a map after a value was put in one of its entries. -/
theorem readMap_put {old new r' : Raw} (hput : PutsEntry key old new r r') {t : Table String α}
    (ht : readMap read r = some t) :
    ∃ a, read old = some a ∧ t.get? key = some a ∧ readMap read r' = (read new).map (t.insert key) := by
  obtain ⟨front, back, hold, hnew, hback⟩ := hput
  obtain ⟨before, after, hbefore, hafter⟩ := exists_mapM_of_readMap hold ht
  rw [readMap_append_cons hbefore hafter hback hold] at ht
  obtain ⟨a, ha, rfl⟩ := Option.map_eq_some_iff.1 ht
  refine ⟨a, ha, Table.get?_insert_self _ key a, ?_⟩
  rw [readMap_append_cons hbefore hafter hback hnew]
  exact congrArg (Option.map · (read new)) (funext fun a' => (Table.insert_insert _ key a a').symm)

end RuleLibrary

end SiteTech
