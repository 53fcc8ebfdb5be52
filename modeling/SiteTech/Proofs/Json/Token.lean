import SiteTech.Json.Reader
import SiteTech.Json.Writer
import SiteTech.Proofs.Text.Basic

namespace SiteTech.Json

/-- The symbols of a text that is well formed. -/
def symbols (s : List Char) : List Symbol := s.map some

@[simp] theorem symbols_nil : symbols [] = [] := rfl

@[simp] theorem symbols_cons (c : Char) (s : List Char) : symbols (c :: s) = some c :: symbols s := rfl

@[simp] theorem symbols_append (s t : List Char) : symbols (s ++ t) = symbols s ++ symbols t :=
  List.map_append

@[simp] theorem length_symbols (s : List Char) : (symbols s).length = s.length := List.length_map some

private theorem hexPadded_control : ∀ n < 32,
    Text.hexPadded 4 n = ['0', '0', (n / 16).digitChar, (n % 16).digitChar] := by decide

private theorem hexValue?_digitChar : ∀ d < 16, Text.hexValue? d.digitChar = some d := by decide

/-- The number of a control character is read as it is written. -/
private theorem readHex_hexPadded {n : Nat} (hn : n < 32) (rest : List Symbol) :
    readHex (symbols (Text.hexPadded 4 n) ++ rest) = some (n, rest) := by
  rw [hexPadded_control n hn]
  simp only [symbols_cons, symbols_nil, List.cons_append, List.nil_append, readHex,
    hexValue?_digitChar (n / 16) (by omega), hexValue?_digitChar (n % 16) (by omega)]
  have hzero : Text.hexValue? '0' = some 0 := rfl
  simp only [hzero, Option.bind_eq_bind, Option.bind_some]
  congr 2
  omega

/-- A character is read as it is written. -/
theorem readString_escaped (fuel : Nat) (acc : List Char) (c : Char) (rest : List Symbol) :
    readString (fuel + 1) (some acc) (symbols (escaped c) ++ rest) = readString fuel (some (c :: acc)) rest := by
  unfold escaped
  -- The first seven characters have an escape of one letter.
  iterate 7
    split
    · subst c
      rfl
  split
  · rename_i hcontrol
    have hplain : c.toNat < 0xd800 ∨ 0xdfff < c.toNat := .inl (by omega)
    rw [symbols_cons, symbols_cons, List.cons_append, List.cons_append, readString, if_neg (by decide),
      if_neg (by decide), if_pos rfl]
    simp only [readHex_hexPadded hcontrol, if_pos hplain, Char.ofNat_toNat, Option.map_some]
  · rename_i hquote hbackslash _ _ _ _ _ hcontrol
    rw [symbols_cons, symbols_nil, List.cons_append, List.nil_append, readString.eq_def]
    dsimp only
    rw [if_neg hquote, if_neg hcontrol, if_neg hbackslash, Option.map_some]

private theorem readString_flatMap_escaped {fuel : Nat} {s : List Char} (hfuel : s.length < fuel) (acc : List Char)
    (rest : List Symbol) :
    readString fuel (some acc) (symbols (s.flatMap escaped) ++ some '"' :: rest) =
      some (some (String.ofList (acc.reverse ++ s)), rest) := by
  obtain ⟨fuel, rfl⟩ := Nat.exists_eq_succ_of_ne_zero (Nat.ne_zero_of_lt hfuel)
  induction s generalizing fuel acc with
  | nil => simp [readString]
  | cons c s ih =>
    have hroom : s.length < fuel := by simpa using hfuel
    obtain ⟨fuel, rfl⟩ := Nat.exists_eq_succ_of_ne_zero (Nat.ne_zero_of_lt hroom)
    rw [List.flatMap_cons, symbols_append, List.append_assoc, readString_escaped, ih (c :: acc) fuel hroom]
    simp

theorem length_le_flatMap_escaped (s : List Char) : s.length ≤ (s.flatMap escaped).length := by
  induction s with
  | nil => exact Nat.le_refl 0
  | cons c s ih =>
    have hc : 1 ≤ (escaped c).length := by
      unfold escaped
      repeat' split
      all_goals simp
    rw [List.flatMap_cons, List.length_append, List.length_cons]
    omega

/-- A string is read as it is written. -/
theorem readText_quoted (s : String) (rest : List Symbol) :
    readText (symbols (s.toList.flatMap escaped) ++ some '"' :: rest) = some (some s, rest) := by
  have hroom : s.toList.length < (symbols (s.toList.flatMap escaped) ++ some '"' :: rest).length + 1 := by
    have hlength := length_le_flatMap_escaped s.toList
    rw [List.length_append, length_symbols]
    omega
  rw [readText, readString_flatMap_escaped hroom]
  simp

/-- What stands behind a number: nothing that could belong to it. -/
def EndsNumber (rest : List Symbol) : Prop :=
  ∀ c, rest.head? = some (some c) → Text.isAsciiDigit c = false ∧ c ≠ '.' ∧ c ≠ 'e' ∧ c ≠ 'E'

theorem digitsOf_append {digits : List Char} (h : ∀ c ∈ digits, Text.isAsciiDigit c = true) {rest : List Symbol}
    (hrest : EndsNumber rest) : digitsOf (symbols digits ++ rest) = (digits, rest) := by
  induction digits with
  | nil =>
    match rest with
    | [] => rfl
    | none :: _ => rfl
    | some c :: _ =>
      rw [symbols_nil, List.nil_append, digitsOf, (hrest c rfl).1]
      rfl
  | cons c digits ih =>
    rw [symbols_cons, List.cons_append, digitsOf, if_pos (h c List.mem_cons_self),
      ih fun c hc => h c (List.mem_cons_of_mem _ hc)]

theorem EndsNumber.readFraction {rest : List Symbol} (hrest : EndsNumber rest) :
    readFraction rest = some (none, rest) := by
  unfold Json.readFraction
  split
  · exact absurd rfl (hrest '.' rfl).2.1
  · rfl

theorem EndsNumber.readExponent {rest : List Symbol} (hrest : EndsNumber rest) :
    readExponent rest = some (none, rest) := by
  unfold Json.readExponent
  split
  · rename_i c rest'
    rw [if_neg (not_or.2 (hrest c rfl).2.2)]
  · rfl

private theorem head?_decimal {n : Nat} (hn : 0 < n) : (Text.decimal n).head? ≠ some '0' := by
  induction n using Nat.strongRecOn with
  | ind n ih =>
    rw [Text.decimal_eq]
    split
    · have hdigit : ∀ d < 10, 0 < d → [d.digitChar].head? ≠ some '0' := by decide
      exact hdigit n ‹n < 10› hn
    · rw [List.head?_append_of_ne_nil _ (Text.decimal_ne_nil _)]
      exact ih (n / 10) (by omega) (by omega)

/-- A written number does not begin with a zero that could be left out. -/
private theorem decimal_ne_zero_cons (n : Nat) (c : Char) (rest : List Char) :
    Text.decimal n ≠ '0' :: c :: rest := by
  intro h
  rcases Nat.eq_zero_or_pos n with rfl | hn
  · cases h
  · exact head?_decimal hn (h ▸ rfl)

private theorem foldl_pushWhole_decimal {n : Nat} (hn : n < UInt64.size) :
    (digitValues (Text.decimal n)).foldl Digits.pushWhole ⟨0, 0, false⟩ = ⟨n, 0, false⟩ := by
  have hpush : ∀ {m d : Nat}, m * 10 + d < UInt64.size →
      Digits.pushWhole ⟨m, 0, false⟩ d = ⟨m * 10 + d, 0, false⟩ := by
    intro m d h
    simp [Digits.pushWhole, Nat.not_le.2 h]
  induction n using Nat.strongRecOn with
  | ind n ih =>
    rw [Text.decimal_eq]
    split
    · rw [digitValues, List.filterMap_cons_some (Text.digitValue?_digitChar n ‹n < 10›), List.filterMap_nil,
        List.foldl_cons, List.foldl_nil, hpush (by omega), Nat.zero_mul, Nat.zero_add]
    · have hsum : n / 10 * 10 + n % 10 = n := by omega
      have hdigit := Text.digitValue?_digitChar (n % 10) (Nat.mod_lt _ (by decide))
      have hfront := ih (n / 10) (by omega) (by omega)
      rw [digitValues] at hfront ⊢
      rw [List.filterMap_append, List.foldl_append, hfront, List.filterMap_cons_some hdigit, List.filterMap_nil,
        List.foldl_cons, List.foldl_nil, hpush (by omega), hsum]

/-- A number below `2 ^ 64` is read as it is written. -/
theorem readNumeral_decimal {n : Nat} (hn : n < UInt64.size) {rest : List Symbol} (hrest : EndsNumber rest) :
    ∃ numeral, readNumeral false (symbols (Text.decimal n) ++ rest) = some (numeral, rest) ∧
      numeral.value? = some (.whole n) := by
  refine ⟨⟨false, Text.decimal n, none, none⟩, ?_, ?_⟩
  · have hdigits : digitsOf (symbols (Text.decimal n) ++ rest) = (Text.decimal n, rest) :=
      digitsOf_append (fun _ => Text.isAsciiDigit_of_mem_decimal) hrest
    rw [readNumeral, hdigits]
    split
    · rename_i h
      exact absurd (congrArg Prod.fst h) (Text.decimal_ne_nil n)
    · rename_i h
      exact absurd (congrArg Prod.fst h) (decimal_ne_zero_cons n _ _)
    · rename_i h
      cases h
      simp [hrest.readFraction, hrest.readExponent]
  · simp [Numeral.value?, foldl_pushWhole_decimal hn]

end SiteTech.Json
