import SiteTech.Json.Value
import Mathlib.Order.MinMax

namespace SiteTech.Json.Raw

mutual

/-- How deep the arrays and objects of a tree are nested. -/
def depth : Raw → Nat
  | .array items => itemsDepth items + 1
  | .object members => membersDepth members + 1
  | .null => 0
  | .bool _ => 0
  | .number _ => 0
  | .string _ => 0

/-- How deep the deepest item is nested. -/
def itemsDepth : List Raw → Nat
  | [] => 0
  | r :: rest => max (depth r) (itemsDepth rest)

/-- How deep the deepest member is nested. -/
def membersDepth : List (Option String × Raw) → Nat
  | [] => 0
  | (_, r) :: rest => max (depth r) (membersDepth rest)

end

mutual

/-- Every depth that is enough gives the same value. -/
theorem value?_congr {d d' : Nat} : ∀ {r : Raw}, r.depth ≤ d → r.depth ≤ d' → r.value? d = r.value? d'
  | .null, _, _ => by rw [value?, value?]
  | .bool _, _, _ => by rw [value?, value?]
  | .number _, _, _ => by rw [value?, value?]
  | .string _, _, _ => by rw [value?, value?]
  | .array items, h, h' => by
    rw [depth] at h h'
    obtain ⟨e, rfl⟩ := Nat.exists_eq_add_of_le' (Nat.le_of_add_left_le h)
    obtain ⟨e', rfl⟩ := Nat.exists_eq_add_of_le' (Nat.le_of_add_left_le h')
    rw [value?, value?, values?_congr (Nat.le_of_succ_le_succ h) (Nat.le_of_succ_le_succ h')]
  | .object members, h, h' => by
    rw [depth] at h h'
    obtain ⟨e, rfl⟩ := Nat.exists_eq_add_of_le' (Nat.le_of_add_left_le h)
    obtain ⟨e', rfl⟩ := Nat.exists_eq_add_of_le' (Nat.le_of_add_left_le h')
    rw [value?, value?, members?_congr (Nat.le_of_succ_le_succ h) (Nat.le_of_succ_le_succ h')]

theorem values?_congr {d d' : Nat} : ∀ {items : List Raw}, itemsDepth items ≤ d → itemsDepth items ≤ d' →
    values? d items = values? d' items
  | [], _, _ => by rw [values?, values?]
  | r :: rest, h, h' => by
    rw [itemsDepth, Nat.max_le] at h h'
    rw [values?, values?, value?_congr h.1 h'.1, values?_congr h.2 h'.2]

theorem members?_congr {d d' : Nat} : ∀ {members : List (Option String × Raw)}, membersDepth members ≤ d →
    membersDepth members ≤ d' → members? d members = members? d' members
  | [], _, _ => by rw [members?, members?]
  | (k, r) :: rest, h, h' => by
    rw [membersDepth, Nat.max_le] at h h'
    rw [members?, members?, value?_congr h.1 h'.1, members?_congr h.2 h'.2]

end

mutual

/-- A tree that is nested too deep has no value. -/
theorem value?_eq_none {d : Nat} : ∀ {r : Raw}, d < r.depth → r.value? d = none
  | .null, h => by cases h
  | .bool _, h => by cases h
  | .number _, h => by cases h
  | .string _, h => by cases h
  | .array items, h => by
    rw [depth] at h
    cases d with
    | zero => rw [value?]
    | succ d => rw [value?, values?_eq_none (by omega), Option.map_none]
  | .object members, h => by
    rw [depth] at h
    cases d with
    | zero => rw [value?]
    | succ d => rw [value?, members?_eq_none (by omega), Option.map_none]

theorem values?_eq_none {d : Nat} : ∀ {items : List Raw}, d < itemsDepth items → values? d items = none
  | [], h => by cases h
  | r :: rest, h => by
    rw [itemsDepth, lt_max_iff] at h
    rw [values?]
    rcases h with h | h
    · rw [value?_eq_none h]
      rfl
    · rw [values?_eq_none h]
      cases r.value? d <;> rfl

theorem members?_eq_none {d : Nat} : ∀ {members : List (Option String × Raw)}, d < membersDepth members →
    members? d members = none
  | [], h => by cases h
  | (k, r) :: rest, h => by
    rw [membersDepth, lt_max_iff] at h
    rw [members?]
    rcases h with h | h
    · rw [value?_eq_none h]
      cases k <;> rfl
    · rw [members?_eq_none h]
      cases k <;> cases r.value? d <;> rfl

end

/-- A tree that has a value at some depth has it at a depth exactly if it is not nested deeper. -/
theorem value?_eq_some_iff {d d' : Nat} {r : Raw} {v : Value} (h : r.value? d = some v) :
    r.value? d' = some v ↔ r.depth ≤ d' := by
  have hle {e : Nat} {w : Value} (hw : r.value? e = some w) : r.depth ≤ e := by
    refine Nat.le_of_not_lt fun hlt => ?_
    rw [value?_eq_none hlt] at hw
    cases hw
  exact ⟨hle, fun hd' => value?_congr hd' (hle h) ▸ h⟩

end SiteTech.Json.Raw
