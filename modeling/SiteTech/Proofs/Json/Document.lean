import SiteTech.Proofs.Json.Token

namespace SiteTech.Json

mutual

/-- A document as reading its text gives it. -/
def Raw.ofValue : Value → Raw
  | .null => .null
  | .bool b => .bool b
  | .number n => .number (some n)
  | .string s => .string (some s)
  | .array items => .array (Raw.ofItems items)
  | .object members => .object (Raw.ofMembers members)

/-- The items of an array as they are read. -/
def Raw.ofItems : List Value → List Raw
  | [] => []
  | v :: rest => Raw.ofValue v :: Raw.ofItems rest

/-- The members of an object as they are read. -/
def Raw.ofMembers : List (String × Value) → List (Option String × Raw)
  | [] => []
  | (k, v) :: rest => (some k, Raw.ofValue v) :: Raw.ofMembers rest

end

/-- A text of blanks, as it may stand between tokens. -/
def IsGap (s : List Char) : Prop := ∀ c ∈ s, isSpace (some c) = true

mutual

/-- A text is one of those that write a document. -/
inductive Value.WrittenAs : Value → List Char → Prop
  | null : Value.WrittenAs .null ['n', 'u', 'l', 'l']
  | trueWord : Value.WrittenAs (.bool true) ['t', 'r', 'u', 'e']
  | falseWord : Value.WrittenAs (.bool false) ['f', 'a', 'l', 's', 'e']
  | number {n : Nat} : n < UInt64.size → Value.WrittenAs (.ofNat n) (Text.decimal n)
  | string (s : String) : Value.WrittenAs (.string s) (quoted s)
  | emptyArray {gap : List Char} : IsGap gap → Value.WrittenAs (.array []) ('[' :: gap ++ [']'])
  | array {items : List Value} {s : List Char} :
      ItemsWrittenAs items s → Value.WrittenAs (.array items) ('[' :: s ++ [']'])
  | emptyObject {gap : List Char} : IsGap gap → Value.WrittenAs (.object []) ('{' :: gap ++ ['}'])
  | object {members : List (String × Value)} {s : List Char} :
      MembersWrittenAs members s → Value.WrittenAs (.object members) ('{' :: s ++ ['}'])

/-- A text is one of those that write the items of an array. -/
inductive ItemsWrittenAs : List Value → List Char → Prop
  | last {v : Value} {before s after : List Char} : IsGap before → Value.WrittenAs v s → IsGap after →
      ItemsWrittenAs [v] (before ++ (s ++ after))
  | cons {v : Value} {rest : List Value} {before s after t : List Char} : IsGap before → Value.WrittenAs v s →
      IsGap after → ItemsWrittenAs rest t → ItemsWrittenAs (v :: rest) (before ++ (s ++ (after ++ ',' :: t)))

/-- A text is one of those that write the members of an object. -/
inductive MembersWrittenAs : List (String × Value) → List Char → Prop
  | last {k : String} {v : Value} {before between lead s after : List Char} : IsGap before → IsGap between →
      IsGap lead → Value.WrittenAs v s → IsGap after →
      MembersWrittenAs [(k, v)] (before ++ (quoted k ++ (between ++ ':' :: (lead ++ (s ++ after)))))
  | cons {k : String} {v : Value} {rest : List (String × Value)} {before between lead s after t : List Char} :
      IsGap before → IsGap between → IsGap lead → Value.WrittenAs v s → IsGap after → MembersWrittenAs rest t →
      MembersWrittenAs ((k, v) :: rest)
        (before ++ (quoted k ++ (between ++ ':' :: (lead ++ (s ++ (after ++ ',' :: t))))))

end

private theorem eq_of_isSpace {c : Char} (h : isSpace (some c) = true) :
    c = ' ' ∨ c = '\n' ∨ c = '\r' ∨ c = '\t' := by
  simpa [isSpace, or_assoc] using h

theorem skipSpace_gap {gap : List Char} (h : IsGap gap) (s : List Symbol) :
    skipSpace (symbols gap ++ s) = skipSpace s := by
  refine List.dropWhile_append_of_pos fun c hc => ?_
  obtain ⟨c, hmem, rfl⟩ := List.mem_map.1 hc
  exact h c hmem

theorem skipSpace_cons {c : Char} (h : isSpace (some c) = false) (s : List Symbol) :
    skipSpace (some c :: s) = some c :: s := List.dropWhile_cons_of_neg (by simp [h])

/-- What stands behind a number if blanks and a mark between values follow. -/
theorem endsNumber_gap {gap : List Char} (h : IsGap gap) {c : Char} (hc : c ∈ [',', ']', '}'])
    (rest : List Symbol) : EndsNumber (symbols gap ++ some c :: rest) := by
  intro d hd
  cases gap with
  | nil =>
    cases hd
    simp only [List.mem_cons, List.not_mem_nil, or_false] at hc
    rcases hc with rfl | rfl | rfl <;> decide
  | cons e gap =>
    cases hd
    rcases eq_of_isSpace (h d List.mem_cons_self) with rfl | rfl | rfl | rfl <;> decide

private theorem readValue_congr (fuel : Nat) {s t : List Symbol} (h : skipSpace s = skipSpace t) :
    readValue fuel s = readValue fuel t := by
  cases fuel with
  | zero => rfl
  | succ fuel => rw [readValue, readValue, h]

private theorem readItems_congr (fuel : Nat) (acc : List Raw) {s t : List Symbol} (h : skipSpace s = skipSpace t) :
    readItems fuel acc s = readItems fuel acc t := by
  cases fuel with
  | zero => rfl
  | succ fuel => rw [readItems, readItems, readValue_congr fuel h]

private theorem readMembers_congr (fuel : Nat) (acc : List (Option String × Raw)) {s t : List Symbol}
    (h : skipSpace s = skipSpace t) : readMembers fuel acc s = readMembers fuel acc t := by
  cases fuel with
  | zero => rfl
  | succ fuel => rw [readMembers, readMembers, h]

private theorem skipSpace_skipSpace (s : List Symbol) : skipSpace (skipSpace s) = skipSpace s :=
  List.dropWhile_idempotent _ s

private theorem readValue_digit (fuel : Nat) {c : Char} (hc : Text.isAsciiDigit c = true) (s : List Symbol) :
    readValue (fuel + 1) (some c :: s) =
      (readNumeral false (some c :: s)).map fun (n, rest) => (.number n.value?, rest) := by
  have hspace : isSpace (some c) = false := Bool.eq_false_iff.2 fun hspace => by
    rcases eq_of_isSpace hspace with rfl | rfl | rfl | rfl <;> cases hc
  rw [readValue, skipSpace_cons hspace]
  split <;> first | rfl | (rename_i h; cases h; exact absurd hc (by decide))

private theorem readValue_array (fuel : Nat) {s t : List Symbol} {c : Char} (hs : skipSpace s = some c :: t)
    (hc : c ≠ ']') : readValue (fuel + 1) (some '[' :: s) = readItems fuel [] s := by
  have hitems := readItems_congr fuel [] (skipSpace_skipSpace s)
  rw [readValue, skipSpace_cons rfl]
  simp only [hs] at hitems ⊢
  split
  · rename_i h
    cases h
    exact absurd rfl hc
  · exact hitems

private theorem readValue_object (fuel : Nat) {s t : List Symbol} {c : Char} (hs : skipSpace s = some c :: t)
    (hc : c ≠ '}') : readValue (fuel + 1) (some '{' :: s) = readMembers fuel [] s := by
  have hmembers := readMembers_congr fuel [] (skipSpace_skipSpace s)
  rw [readValue, skipSpace_cons rfl]
  simp only [hs] at hmembers ⊢
  split
  · rename_i h
    cases h
    exact absurd rfl hc
  · exact hmembers

private theorem readMembers_member {before between : List Char} (hbefore : IsGap before) (hbetween : IsGap between)
    (fuel : Nat) (acc : List (Option String × Raw)) (k : String) (s : List Symbol) :
    readMembers (fuel + 1) acc (symbols before ++ (symbols (quoted k) ++ (symbols between ++ some ':' :: s))) =
      match readValue fuel s with
      | none => none
      | some (r, rest) =>
        match skipSpace rest with
        | some ',' :: rest => readMembers fuel ((some k, r) :: acc) rest
        | some '}' :: rest => some (.object ((some k, r) :: acc).reverse, rest)
        | _ => none := by
  have hname : skipSpace (symbols (quoted k) ++ (symbols between ++ some ':' :: s)) =
      some '"' :: (symbols (k.toList.flatMap escaped) ++ some '"' :: (symbols between ++ some ':' :: s)) := by
    rw [quoted, List.cons_append, symbols_cons, symbols_append, List.cons_append, List.append_assoc,
      skipSpace_cons rfl]
    rfl
  have hcolon : skipSpace (symbols between ++ some ':' :: s) = some ':' :: s := by
    rw [skipSpace_gap hbetween, skipSpace_cons rfl]
  rw [readMembers, skipSpace_gap hbefore, hname]
  simp only [readText_quoted]
  rw [hcolon]
  rfl

/-- A written document begins with a character that opens it. -/
theorem Value.WrittenAs.exists_cons {v : Value} {s : List Char} (h : v.WrittenAs s) :
    ∃ c t, s = c :: t ∧ isSpace (some c) = false ∧ c ≠ ']' := by
  cases h with
  | number hn =>
    rename_i n
    obtain ⟨c, t, hs⟩ := List.exists_cons_of_ne_nil (Text.decimal_ne_nil n)
    have hc : Text.isAsciiDigit c = true :=
      Text.isAsciiDigit_of_mem_decimal (n := n) (hs ▸ List.mem_cons_self)
    refine ⟨c, t, hs, Bool.eq_false_iff.2 fun hspace => ?_, fun heq => ?_⟩
    · rcases eq_of_isSpace hspace with rfl | rfl | rfl | rfl <;> cases hc
    · subst heq
      cases hc
  | _ => exact ⟨_, _, rfl, rfl, by decide⟩

private theorem exists_skipSpace {before s : List Char} (hbefore : IsGap before) {v : Value} (hv : v.WrittenAs s)
    (rest : List Symbol) : ∃ c t, skipSpace (symbols (before ++ s) ++ rest) = some c :: t ∧ c ≠ ']' := by
  obtain ⟨c, t, rfl, hspace, hc⟩ := hv.exists_cons
  refine ⟨c, symbols t ++ rest, ?_, hc⟩
  rw [symbols_append, List.append_assoc, skipSpace_gap hbefore, symbols_cons, List.cons_append,
    skipSpace_cons hspace]

private theorem ItemsWrittenAs.exists_skipSpace {items : List Value} {s : List Char} (h : ItemsWrittenAs items s)
    (rest : List Symbol) : ∃ c t, skipSpace (symbols s ++ rest) = some c :: t ∧ c ≠ ']' := by
  cases h with
  | last hbefore hv hafter =>
    rw [← List.append_assoc, symbols_append, List.append_assoc]
    exact Json.exists_skipSpace hbefore hv _
  | cons hbefore hv hafter hrest =>
    rw [← List.append_assoc, symbols_append, List.append_assoc]
    exact Json.exists_skipSpace hbefore hv _

private theorem MembersWrittenAs.exists_skipSpace {members : List (String × Value)} {s : List Char}
    (h : MembersWrittenAs members s) (rest : List Symbol) :
    ∃ t, skipSpace (symbols s ++ rest) = some '"' :: t := by
  cases h with
  | last hbefore _ _ _ _ =>
    rw [symbols_append, List.append_assoc, skipSpace_gap hbefore]
    exact ⟨_, rfl⟩
  | cons hbefore _ _ _ _ _ =>
    rw [symbols_append, List.append_assoc, skipSpace_gap hbefore]
    exact ⟨_, rfl⟩

mutual

/-- The reader takes a text of a document for the document, whatever comes behind it. -/
theorem Value.WrittenAs.readValue_eq {v : Value} {s : List Char} (h : v.WrittenAs s) {fuel : Nat}
    (hfuel : 2 * s.length ≤ fuel) {rest : List Symbol} (hrest : EndsNumber rest) :
    readValue fuel (symbols s ++ rest) = some (Raw.ofValue v, rest) := by
  obtain ⟨c, t, hs, -, -⟩ := h.exists_cons
  obtain ⟨fuel, rfl⟩ : ∃ room, fuel = room + 1 :=
    ⟨fuel - 1, by rw [hs, List.length_cons] at hfuel; omega⟩
  cases h with
  | null => rfl
  | trueWord => rfl
  | falseWord => rfl
  | number hn =>
    rename_i n
    have hc : Text.isAsciiDigit c = true :=
      Text.isAsciiDigit_of_mem_decimal (n := n) (hs ▸ List.mem_cons_self)
    obtain ⟨numeral, hread, hvalue⟩ := readNumeral_decimal hn hrest
    rw [hs, symbols_cons, List.cons_append] at hread ⊢
    simp only [readValue_digit fuel hc, hread, Option.map_some, hvalue]
    rfl
  | string s =>
    have htext : symbols (quoted s) ++ rest = some '"' :: (symbols (s.toList.flatMap escaped) ++ some '"' :: rest) := by
      simp [quoted]
    rw [htext, readValue, skipSpace_cons rfl]
    simp only [readText_quoted, Option.map_some, Raw.ofValue]
  | emptyArray hgap =>
    rename_i gap
    have hend : skipSpace (symbols (gap ++ [']']) ++ rest) = some ']' :: rest := by
      rw [symbols_append, List.append_assoc, skipSpace_gap hgap]
      exact skipSpace_cons rfl rest
    rw [List.cons_append, symbols_cons, List.cons_append, readValue, skipSpace_cons rfl]
    simp only [hend, Raw.ofValue, Raw.ofItems]
  | array hitems =>
    rename_i items s
    obtain ⟨c, t, hskip, hc⟩ := hitems.exists_skipSpace (some ']' :: rest)
    have htext : symbols ('[' :: s ++ [']']) ++ rest = some '[' :: (symbols s ++ some ']' :: rest) := by
      simp
    have hroom : 2 * s.length + 1 ≤ fuel := by
      simp only [List.length_append, List.length_cons, List.length_nil] at hfuel
      omega
    rw [htext, readValue_array fuel hskip hc, hitems.readItems_eq hroom []]
    rfl
  | emptyObject hgap =>
    rename_i gap
    have hend : skipSpace (symbols (gap ++ ['}']) ++ rest) = some '}' :: rest := by
      rw [symbols_append, List.append_assoc, skipSpace_gap hgap]
      exact skipSpace_cons rfl rest
    rw [List.cons_append, symbols_cons, List.cons_append, readValue, skipSpace_cons rfl]
    simp only [hend, Raw.ofValue, Raw.ofMembers]
  | object hmembers =>
    rename_i members s
    obtain ⟨t, hskip⟩ := hmembers.exists_skipSpace (some '}' :: rest)
    have htext : symbols ('{' :: s ++ ['}']) ++ rest = some '{' :: (symbols s ++ some '}' :: rest) := by
      simp
    have hroom : 2 * s.length + 1 ≤ fuel := by
      simp only [List.length_append, List.length_cons, List.length_nil] at hfuel
      omega
    rw [htext, readValue_object fuel hskip (by decide), hmembers.readMembers_eq hroom []]
    rfl

theorem ItemsWrittenAs.readItems_eq {items : List Value} {s : List Char} (h : ItemsWrittenAs items s) {fuel : Nat}
    (hfuel : 2 * s.length + 1 ≤ fuel) (acc : List Raw) {rest : List Symbol} :
    readItems fuel acc (symbols s ++ some ']' :: rest) =
      some (.array (acc.reverse ++ Raw.ofItems items), rest) := by
  obtain ⟨fuel, rfl⟩ : ∃ room, fuel = room + 1 := ⟨fuel - 1, by omega⟩
  cases h with
  | last hbefore hv hafter =>
    rename_i v before s after
    have hend : skipSpace (symbols after ++ some ']' :: rest) = some ']' :: rest := by
      rw [skipSpace_gap hafter, skipSpace_cons rfl]
    have hroom : 2 * s.length ≤ fuel := by
      simp only [List.length_append] at hfuel
      omega
    rw [symbols_append, symbols_append, List.append_assoc, List.append_assoc, readItems,
      readValue_congr fuel (skipSpace_gap hbefore _), hv.readValue_eq hroom (endsNumber_gap hafter (by decide) rest)]
    simp only [hend, List.reverse_cons]
    rfl
  | cons hbefore hv hafter hrest =>
    rename_i v others before s after t
    have hnext : skipSpace (symbols after ++ some ',' :: (symbols t ++ some ']' :: rest)) =
        some ',' :: (symbols t ++ some ']' :: rest) := by
      rw [skipSpace_gap hafter, skipSpace_cons rfl]
    have hroom : 2 * s.length ≤ fuel ∧ 2 * t.length + 1 ≤ fuel := by
      simp only [List.length_append, List.length_cons] at hfuel
      omega
    rw [symbols_append, symbols_append, symbols_append, symbols_cons, List.append_assoc, List.append_assoc,
      List.append_assoc, List.cons_append, readItems, readValue_congr fuel (skipSpace_gap hbefore _),
      hv.readValue_eq hroom.1 (endsNumber_gap hafter (by decide) _)]
    simp only [hnext, hrest.readItems_eq hroom.2, List.reverse_cons, List.append_assoc]
    rfl

theorem MembersWrittenAs.readMembers_eq {members : List (String × Value)} {s : List Char}
    (h : MembersWrittenAs members s) {fuel : Nat} (hfuel : 2 * s.length + 1 ≤ fuel)
    (acc : List (Option String × Raw)) {rest : List Symbol} :
    readMembers fuel acc (symbols s ++ some '}' :: rest) =
      some (.object (acc.reverse ++ Raw.ofMembers members), rest) := by
  obtain ⟨fuel, rfl⟩ : ∃ room, fuel = room + 1 := ⟨fuel - 1, by omega⟩
  cases h with
  | last hbefore hbetween hlead hv hafter =>
    rename_i k v before between lead s after
    have hend : skipSpace (symbols after ++ some '}' :: rest) = some '}' :: rest := by
      rw [skipSpace_gap hafter, skipSpace_cons rfl]
    have hroom : 2 * s.length ≤ fuel := by
      simp only [List.length_append, List.length_cons] at hfuel
      omega
    have hvalue := hv.readValue_eq hroom (endsNumber_gap hafter (c := '}') (by decide) rest)
    rw [← readValue_congr fuel (skipSpace_gap hlead _)] at hvalue
    simp only [symbols_append, List.append_assoc, symbols_cons, List.cons_append] at hvalue ⊢
    rw [readMembers_member hbefore hbetween, hvalue]
    simp only [hend, List.reverse_cons]
    rfl
  | cons hbefore hbetween hlead hv hafter hrest =>
    rename_i k v others before between lead s after t
    have hnext : skipSpace (symbols after ++ some ',' :: (symbols t ++ some '}' :: rest)) =
        some ',' :: (symbols t ++ some '}' :: rest) := by
      rw [skipSpace_gap hafter, skipSpace_cons rfl]
    have hroom : 2 * s.length ≤ fuel ∧ 2 * t.length + 1 ≤ fuel := by
      simp only [List.length_append, List.length_cons] at hfuel
      omega
    have hvalue := hv.readValue_eq hroom.1
      (endsNumber_gap hafter (c := ',') (by decide) (symbols t ++ some '}' :: rest))
    rw [← readValue_congr fuel (skipSpace_gap hlead _)] at hvalue
    simp only [symbols_append, List.append_assoc, symbols_cons, List.cons_append] at hvalue ⊢
    rw [readMembers_member hbefore hbetween, hvalue]
    simp only [hnext, hrest.readMembers_eq hroom.2, List.reverse_cons, List.append_assoc]
    rfl

end

/-- A text of a document is read as the document. -/
theorem Value.WrittenAs.ofSymbols?_eq {v : Value} {s : List Char} (h : v.WrittenAs s) :
    Raw.ofSymbols? (symbols s) = some (Raw.ofValue v) := by
  have hfuel : 2 * s.length ≤ 2 * (symbols s).length + 2 := by
    rw [length_symbols]
    omega
  have hend : EndsNumber [] := fun c hc => by cases hc
  have hread := h.readValue_eq hfuel hend
  rw [List.append_nil] at hread
  rw [Raw.ofSymbols?, hread]
  rfl

end SiteTech.Json
