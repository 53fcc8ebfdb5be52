import SiteTech.Proofs.Json.Document

namespace SiteTech.Json

/-- All numbers in a document are whole and below `2 ^ 64`. -/
inductive Value.HasWholeNumbers : Value → Prop
  | null : Value.HasWholeNumbers .null
  | bool (b : Bool) : Value.HasWholeNumbers (.bool b)
  | number {n : Nat} : n < UInt64.size → Value.HasWholeNumbers (.ofNat n)
  | string (s : String) : Value.HasWholeNumbers (.string s)
  | array {items : List Value} : (∀ v ∈ items, v.HasWholeNumbers) → Value.HasWholeNumbers (.array items)
  | object {members : List (String × Value)} : (∀ m ∈ members, m.2.HasWholeNumbers) →
      Value.HasWholeNumbers (.object members)

theorem isGap_nil : IsGap [] := fun _ h => by cases h

theorem isGap_newLine (level : Nat) : IsGap (Value.newLine level) := by
  intro c hc
  rcases List.mem_cons.1 hc with rfl | hc
  · rfl
  · rw [List.eq_of_mem_replicate hc]
    rfl

private theorem isGap_blank : IsGap [' '] := by
  intro c hc
  rw [List.mem_singleton.1 hc]
  rfl

namespace Value

private theorem text_of_number (n : Nat) : Number.text (.whole n) = Text.decimal n := by
  rw [Number.text, if_neg (by omega), Int.natAbs_natCast]

private theorem compactItems_written {items : List Value} (hne : items ≠ [])
    (h : ∀ v ∈ items, v.WrittenAs v.compact) : ItemsWrittenAs items (compactItems items) := by
  induction items with
  | nil => exact absurd rfl hne
  | cons v rest ih =>
    have hv := h v List.mem_cons_self
    cases rest with
    | nil =>
      rw [compactItems, ← List.append_nil v.compact]
      exact .last isGap_nil hv isGap_nil
    | cons w rest =>
      have hrest := ih (List.cons_ne_nil _ _) fun v hv => h v (List.mem_cons_of_mem _ hv)
      rw [compactItems]
      · exact .cons isGap_nil hv isGap_nil hrest
      · simp

private theorem compactMembers_written {members : List (String × Value)} (hne : members ≠ [])
    (h : ∀ m ∈ members, m.2.WrittenAs m.2.compact) : MembersWrittenAs members (compactMembers members) := by
  induction members with
  | nil => exact absurd rfl hne
  | cons m rest ih =>
    obtain ⟨k, v⟩ := m
    have hv := h (k, v) List.mem_cons_self
    cases rest with
    | nil =>
      rw [compactMembers, ← List.append_nil v.compact]
      exact .last isGap_nil isGap_nil isGap_nil hv isGap_nil
    | cons w rest =>
      have hrest := ih (List.cons_ne_nil _ _) fun m hm => h m (List.mem_cons_of_mem _ hm)
      rw [compactMembers]
      · simpa using MembersWrittenAs.cons (k := k) isGap_nil isGap_nil isGap_nil hv isGap_nil hrest
      · simp

/-- A document in the least space is a text of the document. -/
theorem HasWholeNumbers.compact_written {v : Value} (h : v.HasWholeNumbers) : v.WrittenAs v.compact := by
  induction h with
  | null => exact .null
  | bool b => cases b with
    | false => exact .falseWord
    | true => exact .trueWord
  | number hn =>
    rw [ofNat, compact, text_of_number]
    exact .number hn
  | string s => exact .string s
  | @array items _ ih =>
    cases items with
    | nil => exact .emptyArray isGap_nil
    | cons v rest => exact .array (compactItems_written (List.cons_ne_nil _ _) ih)
  | @object members _ ih =>
    cases members with
    | nil => exact .emptyObject isGap_nil
    | cons m rest => exact .object (compactMembers_written (List.cons_ne_nil _ _) ih)

private theorem prettyItems_written {items : List Value} {level : Nat} (hne : items ≠ [])
    (h : ∀ v ∈ items, v.WrittenAs (v.pretty level)) {gap : List Char} (hgap : IsGap gap) :
    ItemsWrittenAs items (prettyItems level items ++ gap) := by
  induction items with
  | nil => exact absurd rfl hne
  | cons v rest ih =>
    have hv := h v List.mem_cons_self
    cases rest with
    | nil =>
      rw [prettyItems, List.append_assoc]
      exact .last (isGap_newLine level) hv hgap
    | cons w rest =>
      have hrest := ih (List.cons_ne_nil _ _) fun v hv => h v (List.mem_cons_of_mem _ hv)
      rw [prettyItems]
      · simpa using ItemsWrittenAs.cons (isGap_newLine level) hv isGap_nil hrest
      · simp

private theorem prettyMembers_written {members : List (String × Value)} {level : Nat} (hne : members ≠ [])
    (h : ∀ m ∈ members, m.2.WrittenAs (m.2.pretty level)) {gap : List Char} (hgap : IsGap gap) :
    MembersWrittenAs members (prettyMembers level members ++ gap) := by
  induction members with
  | nil => exact absurd rfl hne
  | cons m rest ih =>
    obtain ⟨k, v⟩ := m
    have hv := h (k, v) List.mem_cons_self
    cases rest with
    | nil =>
      rw [prettyMembers]
      simpa using MembersWrittenAs.last (k := k) (isGap_newLine level) isGap_nil isGap_blank hv hgap
    | cons w rest =>
      have hrest := ih (List.cons_ne_nil _ _) fun m hm => h m (List.mem_cons_of_mem _ hm)
      rw [prettyMembers]
      · simpa using MembersWrittenAs.cons (k := k) (isGap_newLine level) isGap_nil isGap_blank hv isGap_nil hrest
      · simp

/-- A document with indentation is a text of the document. -/
theorem HasWholeNumbers.pretty_written {v : Value} (h : v.HasWholeNumbers) (level : Nat) :
    v.WrittenAs (v.pretty level) := by
  induction h generalizing level with
  | null => exact .null
  | bool b => cases b with
    | false => exact .falseWord
    | true => exact .trueWord
  | number hn =>
    rw [ofNat, pretty, text_of_number]
    exact .number hn
  | string s => exact .string s
  | @array items _ ih =>
    cases items with
    | nil => exact .emptyArray isGap_nil
    | cons v rest =>
      have hitems := prettyItems_written (List.cons_ne_nil v rest) (fun v hv => ih v hv (level + 1))
        (isGap_newLine level)
      exact .array hitems
  | @object members _ ih =>
    cases members with
    | nil => exact .emptyObject isGap_nil
    | cons m rest =>
      have hmembers := prettyMembers_written (List.cons_ne_nil m rest) (fun m hm => ih m hm (level + 1))
        (isGap_newLine level)
      exact .object hmembers

end Value

theorem Raw.ofText?_ofList {v : Value} {s : List Char} (h : v.WrittenAs s) :
    Raw.ofText? (String.ofList s) = some (Raw.ofValue v) := by
  rw [Raw.ofText?, String.toList_ofList]
  exact h.ofSymbols?_eq

/-- A document in the least space is read as the document. -/
theorem Value.HasWholeNumbers.ofText?_compactText {v : Value} (h : v.HasWholeNumbers) :
    Raw.ofText? v.compactText = some (Raw.ofValue v) := Raw.ofText?_ofList h.compact_written

/-- A document with indentation is read as the document. -/
theorem Value.HasWholeNumbers.ofText?_prettyText {v : Value} (h : v.HasWholeNumbers) :
    Raw.ofText? v.prettyText = some (Raw.ofValue v) := Raw.ofText?_ofList (h.pretty_written 0)

end SiteTech.Json
