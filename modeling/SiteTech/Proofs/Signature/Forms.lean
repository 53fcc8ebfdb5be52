import SiteTech.Signature.Spec
import SiteTech.Proofs.Table

namespace SiteTech

open Json (Value)

namespace SpecEntry

/-- The texts that a value gives for one name: a string gives itself, an array of only strings its items. -/
inductive Gives : Value → List String → Prop
  | single (s : String) : Gives (.string s) [s]
  | list (texts : List String) : Gives (.array (texts.map .string)) texts

end SpecEntry

namespace Spec

/-- The texts that a value gives for a channel, each under its name. What stands for itself has the main name, and
an object gives what its members give. -/
inductive Gives : Value → String → List String → Prop
  | main {v : Value} {texts : List String} : SpecEntry.Gives v texts → Gives v mainKey texts
  | keyed {members : List (String × Value)} {name : String} {v : Value} {texts : List String} :
      (Value.table members).get? name = some v → SpecEntry.Gives v texts → Gives (.object members) name texts

end Spec

/-- The signatures of a channel are those of the texts that a value gives, and as many as there are texts. -/
def PatternTable.IsGivenBy (t : PatternTable) (v : Value) : Prop :=
  ∃ texts : Table String (List String), (∀ name ts, texts.get? name = some ts ↔ Spec.Gives v name ts) ∧
    t = texts.mapValues (List.map Pattern.ofText) ∧ t.count = texts.values.flatten.length

private theorem mapM_string?_eq_some_iff {items : List Value} {texts : List String} :
    items.mapM Value.string? = some texts ↔ items = texts.map .string := by
  induction items generalizing texts with
  | nil => cases texts <;> simp
  | cons item items ih =>
    rw [List.mapM_cons, Option.bind_eq_bind, Option.bind_eq_some_iff]
    constructor
    · rintro ⟨s, hs, hrest⟩
      obtain ⟨rest, hitems, hcons⟩ := Option.bind_eq_some_iff.1 hrest
      cases hcons
      cases item with
      | string s' =>
        cases hs
        rw [List.map_cons, ih.1 hitems]
      | _ => cases hs
    · intro htexts
      obtain ⟨s, rest, rfl, rfl, hrest⟩ := List.map_eq_cons_iff.1 htexts.symm
      exact ⟨s, rfl, by rw [ih.2 hrest.symm]; rfl⟩

theorem Json.Value.strings?_eq_some_iff {v : Value} {texts : List String} :
    v.strings? = some texts ↔ v = .array (texts.map .string) := by
  cases v with
  | array items => rw [strings?, array.injEq, mapM_string?_eq_some_iff]
  | _ => simp [strings?]

namespace SpecEntry

/-- The texts of what is given for one name. -/
def texts? : SpecEntry → Option (List String)
  | .single s => some [s]
  | .list texts => some texts
  | .unsupported => none

theorem patterns?_eq (e : SpecEntry) : e.patterns? = e.texts?.map (List.map Pattern.ofText) := by
  cases e <;> rfl

theorem texts?_ofValue_eq_some_iff {v : Value} {texts : List String} :
    (ofValue v).texts? = some texts ↔ Gives v texts := by
  cases v with
  | string s =>
    constructor
    · intro h
      cases h
      exact .single s
    · rintro ⟨⟩
      rfl
  | array items =>
    have hread : (ofValue (.array items)).texts? = (Value.array items).strings? := by
      simp only [ofValue]
      cases (Value.array items).strings? <;> rfl
    rw [hread, Value.strings?_eq_some_iff]
    constructor
    · intro h
      rw [h]
      exact .list texts
    · rintro ⟨⟩
      rfl
  | _ => constructor <;> intro h <;> cases h

end SpecEntry

namespace Spec

/-- The texts of a description of a channel. -/
def texts : Spec → Table String (List String)
  | .single s => Table.empty.insert mainKey [s]
  | .list texts => Table.empty.insert mainKey texts
  | .keyed entries => Table.ofList (entries.toList.filterMap fun (name, e) => e.texts?.map (name, ·))
  | .unsupported => Table.empty

/-- The signatures of a channel are what its texts are read as. -/
theorem patterns_eq (spec : Spec) : spec.patterns = spec.texts.mapValues (List.map Pattern.ofText) := by
  cases spec with
  | keyed entries =>
    rw [patterns, texts, Table.mapValues_ofList, List.map_filterMap]
    simp only [SpecEntry.patterns?_eq, Option.map_map]
    rfl
  | _ => rfl

private theorem get?_texts_keyed (entries : Table String SpecEntry) (name : String) :
    (keyed entries).texts.get? name = (entries.get? name).bind SpecEntry.texts? := by
  have hordered : (entries.toList.filterMap fun (name, e) => e.texts?.map (name, ·)).Pairwise
      fun a b => compare a.1 b.1 = .lt := by
    refine entries.ordered.filterMap _ fun e e' hlt a ha a' ha' => ?_
    obtain ⟨texts, -, rfl⟩ := Option.map_eq_some_iff.1 ha
    obtain ⟨texts', -, rfl⟩ := Option.map_eq_some_iff.1 ha'
    exact hlt
  ext ts
  simp only [texts, Table.get?_eq_some_iff, Option.bind_eq_some_iff, Table.toList_ofList hordered,
    List.mem_filterMap, Option.map_eq_some_iff, Prod.mk.injEq]
  constructor
  · rintro ⟨⟨_, e⟩, he, _, hts, rfl, rfl⟩
    exact ⟨e, he, hts⟩
  · rintro ⟨e, he, hts⟩
    exact ⟨(name, e), he, ts, hts, rfl, rfl⟩

/-- What is no object stands for the main name. -/
private theorem texts_ofValue {v : Value} (h : ∀ members, v ≠ .object members) :
    (ofValue v).texts = ((SpecEntry.ofValue v).texts?.map (Table.empty.insert mainKey)).getD Table.empty := by
  cases v with
  | object members => exact absurd rfl (h members)
  | array items =>
    simp only [ofValue, SpecEntry.ofValue]
    cases (Value.array items).strings? <;> rfl
  | _ => rfl

private theorem get?_main_eq_some_iff {given : Option (List String)} {name : String} {ts : List String} :
    ((given.map (Table.empty.insert mainKey)).getD Table.empty).get? name = some ts ↔
      name = mainKey ∧ given = some ts := by
  cases given with
  | none => simp
  | some texts => simp [Table.get?_insert]

theorem get?_texts_ofValue_eq_some_iff {v : Value} {name : String} {ts : List String} :
    (ofValue v).texts.get? name = some ts ↔ Gives v name ts := by
  by_cases hobject : ∃ members, v = .object members
  · obtain ⟨members, rfl⟩ := hobject
    rw [ofValue, get?_texts_keyed, Table.get?_mapValues, Option.bind_map, Option.bind_eq_some_iff]
    constructor
    · rintro ⟨v, hv, hts⟩
      exact .keyed hv (SpecEntry.texts?_ofValue_eq_some_iff.1 hts)
    · intro h
      cases h with
      | main hgives => cases hgives
      | keyed hv hgives => exact ⟨_, hv, SpecEntry.texts?_ofValue_eq_some_iff.2 hgives⟩
  · rw [texts_ofValue (not_exists.1 hobject), get?_main_eq_some_iff, SpecEntry.texts?_ofValue_eq_some_iff]
    constructor
    · rintro ⟨rfl, hgives⟩
      exact .main hgives
    · intro h
      cases h with
      | main hgives => exact ⟨rfl, hgives⟩
      | keyed hv hgives => exact absurd ⟨_, rfl⟩ hobject

/-- What a value is read as has the signatures that the value gives. -/
theorem isGivenBy_ofValue (v : Value) : (ofValue v).patterns.IsGivenBy v := by
  refine ⟨(ofValue v).texts, fun name ts => get?_texts_ofValue_eq_some_iff, patterns_eq _, ?_⟩
  rw [patterns_eq, PatternTable.count, Table.values_mapValues, ← List.map_flatten, List.length_map]

end Spec

end SiteTech
