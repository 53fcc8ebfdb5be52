namespace SiteTech

/-- A finite map, kept as its entries in strictly increasing key order. -/
structure Table (κ : Type) (α : Type) [Ord κ] where
  entries : List (κ × α)
  ordered : entries.Pairwise fun a b => compare a.1 b.1 = .lt

namespace Table

variable {κ α β : Type} [Ord κ]

/-- Puts an entry at its place, over an entry with an equal key. -/
def insertEntry (k : κ) (v : α) : List (κ × α) → List (κ × α)
  | [] => [(k, v)]
  | e :: rest =>
    match compare k e.1 with
    | .lt => (k, v) :: e :: rest
    | .eq => (k, v) :: rest
    | .gt => e :: insertEntry k v rest

/-- The value of the first entry with the given key. -/
def findEntry (k : κ) : List (κ × α) → Option α
  | [] => none
  | e :: rest =>
    match compare k e.1 with
    | .eq => some e.2
    | _ => findEntry k rest

theorem mem_insertEntry {k : κ} {v : α} {e : κ × α} {l : List (κ × α)}
    (h : e ∈ insertEntry k v l) : e = (k, v) ∨ e ∈ l := by
  induction l with
  | nil => simpa [insertEntry] using h
  | cons a rest ih =>
    unfold insertEntry at h
    split at h <;> simp only [List.mem_cons] at h ⊢ <;> grind

theorem insertEntry_ordered [Std.TransOrd κ] (k : κ) (v : α) {l : List (κ × α)}
    (h : l.Pairwise fun a b => compare a.1 b.1 = .lt) :
    (insertEntry k v l).Pairwise fun a b => compare a.1 b.1 = .lt := by
  induction l with
  | nil => simp [insertEntry]
  | cons a rest ih =>
    have ⟨hhead, htail⟩ := List.pairwise_cons.1 h
    unfold insertEntry
    split
    · rename_i hlt
      refine List.pairwise_cons.2 ⟨fun e he => ?_, h⟩
      rcases List.mem_cons.1 he with rfl | he
      · exact hlt
      · exact Std.TransCmp.lt_trans hlt (hhead e he)
    · rename_i heq
      refine List.pairwise_cons.2 ⟨fun e he => ?_, htail⟩
      exact Std.TransCmp.lt_of_eq_of_lt heq (hhead e he)
    · rename_i hgt
      refine List.pairwise_cons.2 ⟨fun e he => ?_, ih htail⟩
      rcases mem_insertEntry he with rfl | he
      · exact Std.OrientedCmp.lt_of_gt hgt
      · exact hhead e he

/-- The map without entries. -/
def empty : Table κ α := ⟨[], List.Pairwise.nil⟩

instance : EmptyCollection (Table κ α) := ⟨empty⟩

instance : Inhabited (Table κ α) := ⟨empty⟩

/-- Sets the value of a key. -/
def insert [Std.TransOrd κ] (t : Table κ α) (k : κ) (v : α) : Table κ α :=
  ⟨insertEntry k v t.entries, insertEntry_ordered k v t.ordered⟩

/-- Drops the entry of a key, if there is one. -/
def erase (t : Table κ α) (k : κ) : Table κ α :=
  ⟨t.entries.filter fun e => compare k e.1 != .eq, t.ordered.filter _⟩

/-- The value of a key. -/
def get? (t : Table κ α) (k : κ) : Option α := findEntry k t.entries

/-- Whether a key has a value. -/
def contains (t : Table κ α) (k : κ) : Bool := (t.get? k).isSome

/-- Sets the value of a key to a function of the value that it has. -/
def alter [Std.TransOrd κ] (t : Table κ α) (k : κ) (f : Option α → α) : Table κ α :=
  t.insert k (f (t.get? k))

/-- The entries, in key order. -/
def toList (t : Table κ α) : List (κ × α) := t.entries

/-- The keys, in order. -/
def keys (t : Table κ α) : List κ := t.entries.map (·.1)

/-- The values, in the order of their keys. -/
def values (t : Table κ α) : List α := t.entries.map (·.2)

/-- The number of entries. -/
def size (t : Table κ α) : Nat := t.entries.length

/-- Whether there is no entry. -/
def isEmpty (t : Table κ α) : Bool := t.entries.isEmpty

/-- The map of a list of entries, of which a later one wins over an earlier one with its key. -/
def ofList [Std.TransOrd κ] (l : List (κ × α)) : Table κ α :=
  l.foldl (fun t e => t.insert e.1 e.2) empty

/-- Applies a function to every value. -/
def mapValues (f : α → β) (t : Table κ α) : Table κ β :=
  ⟨t.entries.map fun e => (e.1, f e.2), List.pairwise_map.2 t.ordered⟩

@[simp] theorem get?_empty (k : κ) : (empty : Table κ α).get? k = none := rfl

theorem findEntry_insertEntry [Std.TransOrd κ] (k k' : κ) (v : α) (l : List (κ × α)) :
    findEntry k' (insertEntry k v l) =
      if compare k' k = .eq then some v else findEntry k' l := by
  induction l with
  | nil => simp only [insertEntry, findEntry]; split <;> simp_all
  | cons a rest ih =>
    unfold insertEntry
    split
    · simp only [findEntry]
      split <;> simp_all
    · rename_i heq
      simp only [findEntry]
      by_cases hk : compare k' k = .eq
      · simp [hk]
      · rw [Std.TransCmp.congr_right heq] at hk
        simp only [Std.TransCmp.congr_right heq, hk, if_false]
    · rename_i hgt
      simp only [findEntry, ih]
      by_cases hk : compare k' k = .eq
      · have : compare k' a.1 = .gt := by rw [Std.TransCmp.congr_left hk]; exact hgt
        simp [this, hk]
      · simp [hk]

@[grind =] theorem get?_insert [Std.TransOrd κ] (t : Table κ α) (k k' : κ) (v : α) :
    (t.insert k v).get? k' = if compare k' k = .eq then some v else t.get? k' :=
  findEntry_insertEntry k k' v t.entries

theorem findEntry_filter [Std.TransOrd κ] (k k' : κ) (l : List (κ × α)) :
    findEntry k' (l.filter fun e => compare k e.1 != .eq) =
      if compare k' k = .eq then none else findEntry k' l := by
  induction l with
  | nil => simp [findEntry]
  | cons a rest ih =>
    by_cases hd : compare k a.1 = .eq
    · simp only [List.filter_cons, hd, bne_self_eq_false, Bool.false_eq_true, if_false, ih, findEntry]
      by_cases hk : compare k' k = .eq
      · simp [hk]
      · simp only [hk, if_false]
        rw [Std.TransCmp.congr_right hd] at hk
        split <;> simp_all
    · have hne : (compare k a.1 != .eq) = true := by simp [hd]
      simp only [List.filter_cons, hne, if_true, findEntry, ih]
      by_cases hk : compare k' k = .eq
      · have : compare k' a.1 ≠ .eq := by rw [Std.TransCmp.congr_left hk]; exact hd
        split <;> simp_all
      · simp [hk]

@[grind =] theorem get?_erase [Std.TransOrd κ] (t : Table κ α) (k k' : κ) :
    (t.erase k).get? k' = if compare k' k = .eq then none else t.get? k' :=
  findEntry_filter k k' t.entries

end Table

end SiteTech
