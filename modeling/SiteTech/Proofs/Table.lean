import SiteTech.Table
import Mathlib.Data.List.Basic
import Mathlib.Data.List.Induction
import Mathlib.Data.List.Pairwise

namespace SiteTech.Table

variable {κ α : Type} [Ord κ]

theorem contains_iff (t : Table κ α) {k : κ} : t.contains k = true ↔ ∃ v, t.get? k = some v :=
  Option.isSome_iff_exists

theorem contains_eq_false_iff (t : Table κ α) {k : κ} : t.contains k = false ↔ t.get? k = none := by
  simp [contains]

private theorem insertEntry_eq_concat [Std.OrientedOrd κ] {k : κ} {v : α} {l : List (κ × α)}
    (h : ∀ e ∈ l, compare e.1 k = .lt) : insertEntry k v l = l ++ [(k, v)] := by
  induction l with
  | nil => rfl
  | cons e rest ih =>
    have hgt : compare k e.1 = .gt := Std.OrientedCmp.gt_of_lt (h e List.mem_cons_self)
    rw [insertEntry, hgt, ih fun e he => h e (List.mem_cons_of_mem _ he)]
    rfl

private theorem toList_foldl [Std.TransOrd κ] {l : List (κ × α)} {t : Table κ α}
    (hl : (t.toList ++ l).Pairwise fun a b => compare a.1 b.1 = .lt) :
    (l.foldl (fun t e => t.insert e.1 e.2) t).toList = t.toList ++ l := by
  induction l generalizing t with
  | nil => exact (List.append_nil _).symm
  | cons e rest ih =>
    have hinsert : (t.insert e.1 e.2).toList = t.toList ++ [e] :=
      insertEntry_eq_concat fun a ha => (List.pairwise_append.1 hl).2.2 a ha e List.mem_cons_self
    have happend : t.toList ++ e :: rest = (t.insert e.1 e.2).toList ++ rest := by
      rw [hinsert, List.append_assoc, List.singleton_append]
    rw [happend] at hl ⊢
    exact ih hl

/-- Entries that are in order are the entries of their map. -/
theorem toList_ofList [Std.TransOrd κ] {l : List (κ × α)}
    (hl : l.Pairwise fun a b => compare a.1 b.1 = .lt) : (ofList l).toList = l := toList_foldl hl

theorem values_mapValues {β : Type} (f : α → β) (t : Table κ α) : (t.mapValues f).values = t.values.map f := by
  rw [values, mapValues, values, List.map_map, List.map_map]
  rfl

variable [Std.LawfulEqOrd κ]

private theorem findEntry_eq_some_iff {k : κ} {v : α} {l : List (κ × α)}
    (hl : l.Pairwise fun a b => compare a.1 b.1 = .lt) :
    findEntry k l = some v ↔ (k, v) ∈ l := by
  induction l with
  | nil => simp [findEntry]
  | cons e rest ih =>
    obtain ⟨hhead, htail⟩ := List.pairwise_cons.1 hl
    obtain ⟨k', v'⟩ := e
    by_cases hk : k = k'
    · subst hk
      have hrest : (k, v) ∉ rest := fun hmem => by
        have := hhead _ hmem
        simp at this
      simp [findEntry, hrest, eq_comm]
    · have hcompare : compare k k' ≠ .eq := fun h => hk (Std.compare_eq_iff_eq.1 h)
      have hfind : findEntry k ((k', v') :: rest) = findEntry k rest := by simp only [findEntry]
      rw [hfind, ih htail]
      simp [hk]

/-- A look-up finds exactly the entries of the table. -/
theorem get?_eq_some_iff (t : Table κ α) {k : κ} {v : α} :
    t.get? k = some v ↔ (k, v) ∈ t.toList := findEntry_eq_some_iff t.ordered

/-- The keys are the names under which something is found. -/
theorem mem_keys_iff (t : Table κ α) {k : κ} : k ∈ t.keys ↔ t.contains k = true := by
  simp only [contains_iff, get?_eq_some_iff]
  exact ⟨fun h => by simpa [keys, toList] using h, fun ⟨v, h⟩ => List.mem_map_of_mem h⟩

/-- The values are what is found under some key. -/
theorem mem_values_iff (t : Table κ α) {v : α} : v ∈ t.values ↔ ∃ k, t.get? k = some v := by
  simp [get?_eq_some_iff, values, toList]

/-- The values are what is found under the keys, in their order. -/
theorem values_eq_filterMap_keys (t : Table κ α) : t.values = t.keys.filterMap t.get? := by
  have hget : ∀ e ∈ t.entries, (t.get? ∘ Prod.fst) e = (some ∘ Prod.snd) e := by
    intro e he
    exact t.get?_eq_some_iff.2 he
  rw [keys, List.filterMap_map, List.filterMap_congr hget, List.filterMap_eq_map, values]

/-- A table that has no entry has no key. -/
theorem isEmpty_iff (t : Table κ α) : t.isEmpty = true ↔ ∀ k, t.contains k = false := by
  rw [isEmpty, List.isEmpty_iff]
  constructor
  · intro hnil k
    rw [contains_eq_false_iff, get?, hnil, findEntry]
  · intro hnone
    by_contra hne
    obtain ⟨⟨k, v⟩, hmem⟩ := List.exists_mem_of_ne_nil _ hne
    have hget := (t.get?_eq_some_iff).2 hmem
    rw [(t.contains_eq_false_iff).1 (hnone k)] at hget
    cases hget

theorem exists_contains {t : Table κ α} (h : t.isEmpty = false) : ∃ k, t.contains k = true := by
  by_contra hnone
  have hempty := t.isEmpty_iff.2 fun k => Bool.eq_false_iff.2 fun hk => hnone ⟨k, hk⟩
  rw [hempty] at h
  cases h

theorem get?_mapValues {β : Type} (f : α → β) (t : Table κ α) (k : κ) :
    (t.mapValues f).get? k = (t.get? k).map f := by
  ext w
  simp only [get?_eq_some_iff, Option.map_eq_some_iff, mapValues, toList, List.mem_map, Prod.mk.injEq]
  constructor
  · rintro ⟨⟨_, v⟩, hmem, rfl, rfl⟩
    exact ⟨v, hmem, rfl⟩
  · rintro ⟨v, hmem, rfl⟩
    exact ⟨(k, v), hmem, rfl, rfl⟩

variable [Std.TransOrd κ]

/-- Look-ups determine a table. -/
theorem ext_get? {t t' : Table κ α} (h : ∀ k, t.get? k = t'.get? k) : t = t' := by
  have hmem : ∀ e, e ∈ t.entries ↔ e ∈ t'.entries := fun ⟨k, v⟩ => by
    have hiff := t.get?_eq_some_iff (k := k) (v := v)
    rw [h k, t'.get?_eq_some_iff] at hiff
    exact hiff.symm
  have hnodup (t : Table κ α) : t.entries.Nodup := t.ordered.imp fun hlt heq => by
    rw [heq] at hlt
    simp at hlt
  have hperm : t.entries.Perm t'.entries := (List.perm_ext_iff_of_nodup (hnodup t) (hnodup t')).2 hmem
  have hentries : t.entries = t'.entries := hperm.eq_of_pairwise
    (fun a b _ _ hlt hgt => by
      rw [Std.OrientedCmp.gt_of_lt hlt] at hgt
      cases hgt)
    t.ordered t'.ordered
  cases t
  cases t'
  cases hentries
  rfl

theorem get?_insert_self (t : Table κ α) (k : κ) (v : α) : (t.insert k v).get? k = some v := by
  simp [get?_insert]

theorem get?_insert_of_ne (t : Table κ α) {k k' : κ} (v : α) (hne : k' ≠ k) :
    (t.insert k v).get? k' = t.get? k' := by
  simp [get?_insert, hne]

theorem contains_insert (t : Table κ α) (k k' : κ) (v : α) :
    (t.insert k v).contains k' = true ↔ t.contains k' = true ∨ k' = k := by
  by_cases hk : k' = k
  · subst hk
    simp [contains, get?_insert_self]
  · simp [contains, get?_insert_of_ne t v hk, hk]

theorem insert_insert (t : Table κ α) (k : κ) (v v' : α) : (t.insert k v).insert k v' = t.insert k v' := by
  refine ext_get? fun k' => ?_
  simp only [get?_insert]
  split <;> rfl

theorem insert_comm (t : Table κ α) {k k' : κ} (v v' : α) (hne : k ≠ k') :
    (t.insert k v).insert k' v' = (t.insert k' v').insert k v := by
  refine ext_get? fun l => ?_
  simp only [get?_insert, Std.compare_eq_iff_eq]
  by_cases hl : l = k
  · subst hl
    simp [hne]
  · simp [hl]

theorem mapValues_insert {β : Type} (f : α → β) (t : Table κ α) (k : κ) (v : α) :
    (t.insert k v).mapValues f = (t.mapValues f).insert k (f v) := by
  refine ext_get? fun k' => ?_
  simp only [get?_mapValues, get?_insert]
  split <;> rfl

theorem mapValues_ofList {β : Type} (f : α → β) (l : List (κ × α)) :
    (ofList l).mapValues f = ofList (l.map fun e => (e.1, f e.2)) := by
  rw [ofList, ofList, List.foldl_map]
  exact (List.foldl_hom (fun t : Table κ α => t.mapValues f) fun t e => (mapValues_insert f t e.1 e.2).symm).symm

theorem get?_alter_self (t : Table κ α) (k : κ) (f : Option α → α) :
    (t.alter k f).get? k = some (f (t.get? k)) := get?_insert_self t k _

theorem get?_alter_of_ne (t : Table κ α) {k k' : κ} (f : Option α → α) (hne : k' ≠ k) :
    (t.alter k f).get? k' = t.get? k' := get?_insert_of_ne t _ hne

private theorem foldl_insert {l : List (κ × α)} {t : Table κ α} {k : κ} {v : α} (hk : k ∉ l.map (·.1)) :
    l.foldl (fun t e => t.insert e.1 e.2) (t.insert k v) =
      (l.foldl (fun t e => t.insert e.1 e.2) t).insert k v := by
  induction l generalizing t with
  | nil => rfl
  | cons e rest ih =>
    obtain ⟨hne, hrest⟩ := List.ne_and_not_mem_of_not_mem_cons hk
    rw [List.foldl_cons, List.foldl_cons, insert_comm t v e.2 hne]
    exact ih hrest

/-- The last entry of a key decides. -/
theorem ofList_append_cons {front back : List (κ × α)} {k : κ} (v : α) (hk : k ∉ back.map (·.1)) :
    ofList (front ++ (k, v) :: back) = (ofList (front ++ back)).insert k v := by
  simp only [ofList, List.foldl_append, List.foldl_cons]
  exact foldl_insert hk

omit [Std.LawfulEqOrd κ] in
theorem ofList_concat (l : List (κ × α)) (e : κ × α) : ofList (l ++ [e]) = (ofList l).insert e.1 e.2 :=
  List.foldl_append

section FilterMap

variable {β : Type} {f : β → Option (κ × α)}

/-- The value that a member gives for a key. -/
private def valueFor (f : β → Option (κ × α)) (k : κ) (b : β) : Option α :=
  (f b).bind fun e => if compare k e.1 = .eq then some e.2 else none

omit [Std.TransOrd κ] in
private theorem valueFor_eq_some_iff {k : κ} {v : α} {b : β} : valueFor f k b = some v ↔ f b = some (k, v) := by
  cases hb : f b with
  | none => simp [valueFor, hb]
  | some e =>
    obtain ⟨k', v'⟩ := e
    simp [valueFor, hb, eq_comm (a := k)]

omit [Std.LawfulEqOrd κ] in
private theorem get?_ofList_filterMap (f : β → Option (κ × α)) (l : List β) (k : κ) :
    (ofList (l.filterMap f)).get? k = l.reverse.findSome? (valueFor f k) := by
  induction l using List.reverseRecOn with
  | nil => rfl
  | append_singleton l b ih =>
    rw [List.filterMap_append, List.reverse_append, List.reverse_singleton, List.singleton_append, List.findSome?_cons,
      ← ih, valueFor, List.filterMap_cons, List.filterMap_nil]
    cases f b with
    | none => simp
    | some e =>
      rw [ofList_concat, get?_insert, Option.bind_some]
      split <;> rfl

/-- Of the members that give a value for a key the last one decides. -/
theorem get?_ofList_filterMap_eq_some_iff {l : List β} {k : κ} {v : α} :
    (ofList (l.filterMap f)).get? k = some v ↔
      ∃ b front back, l = front ++ b :: back ∧ f b = some (k, v) ∧ ∀ c ∈ back, ∀ w, f c ≠ some (k, w) := by
  have hnone (c : β) : valueFor f k c = none ↔ ∀ w, f c ≠ some (k, w) := by
    simp only [Option.eq_none_iff_forall_ne_some, ne_eq, valueFor_eq_some_iff]
  rw [get?_ofList_filterMap, List.findSome?_eq_some_iff]
  simp only [valueFor_eq_some_iff, hnone]
  constructor
  · rintro ⟨front, b, back, heq, hb, hnone⟩
    refine ⟨b, back.reverse, front.reverse, ?_, hb, fun c hc => hnone c (List.mem_reverse.1 hc)⟩
    rw [← List.reverse_reverse l, heq]
    simp
  · rintro ⟨b, front, back, rfl, hb, hnone⟩
    exact ⟨back.reverse, b, front.reverse, by simp, hb, fun c hc => hnone c (List.mem_reverse.1 hc)⟩

theorem contains_ofList_filterMap_iff {l : List β} {k : κ} :
    (ofList (l.filterMap f)).contains k = true ↔ ∃ b ∈ l, ∃ v, f b = some (k, v) := by
  rw [contains, get?_ofList_filterMap, List.findSome?_isSome_iff]
  simp only [List.mem_reverse, Option.isSome_iff_exists, valueFor_eq_some_iff]

end FilterMap

/-- The entries of a table whose keys are chosen. -/
def restrict (p : κ → Bool) (t : Table κ α) : Table κ α := ⟨t.entries.filter fun e => p e.1, t.ordered.filter _⟩

omit [Std.LawfulEqOrd κ] [Std.TransOrd κ] in
theorem toList_restrict (p : κ → Bool) (t : Table κ α) :
    (t.restrict p).toList = t.toList.filter fun e => p e.1 := rfl

omit [Std.TransOrd κ] in
theorem get?_restrict (p : κ → Bool) (t : Table κ α) (k : κ) :
    (t.restrict p).get? k = if p k then t.get? k else none := by
  ext v
  rw [get?_eq_some_iff, toList_restrict, List.mem_filter, ← get?_eq_some_iff]
  cases hp : p k <;> simp

/-- Leaving out keys before or after a map is made of a list is the same. -/
theorem ofList_filter (p : κ → Bool) (l : List (κ × α)) :
    ofList (l.filter fun e => p e.1) = (ofList l).restrict p := by
  induction l using List.reverseRecOn with
  | nil => rfl
  | append_singleton l e ih =>
    refine ext_get? fun k => ?_
    rw [List.filter_append, ofList_concat, get?_restrict, get?_insert]
    cases hp : p e.1 with
    | true =>
      rw [List.filter_singleton, hp, cond_true, ofList_concat, get?_insert, ih, get?_restrict]
      by_cases hk : k = e.1 <;> simp [hk, hp]
    | false =>
      rw [List.filter_singleton, hp, cond_false, List.append_nil, ih, get?_restrict]
      by_cases hk : k = e.1 <;> simp [hk, hp]

end SiteTech.Table
