import SiteTech.Text.Basic
import Mathlib.Data.List.DropRight
import Mathlib.Data.List.Induction

namespace SiteTech.Text

section Pieces

variable {α : Type}

theorem dropEndWhile_prefix (p : α → Bool) (s : List α) : dropEndWhile p s <+: s := by
  obtain ⟨front, hfront⟩ := List.dropWhile_suffix p (l := s.reverse)
  exact ⟨front.reverse, by rw [dropEndWhile, ← List.reverse_append, hfront, List.reverse_reverse]⟩

theorem dropEndWhile_eq_self {p : α → Bool} {s : List α} (h : ∀ c ∈ s, p c = false) :
    dropEndWhile p s = s := by
  have hdrop : s.reverse.dropWhile p = s.reverse := by
    cases hrev : s.reverse with
    | nil => rfl
    | cons c rest =>
      have hmem : c ∈ s := List.mem_reverse.1 (hrev ▸ List.mem_cons_self)
      rw [List.dropWhile_cons_of_neg (by simp [h c hmem])]
  rw [dropEndWhile, hdrop, List.reverse_reverse]

theorem dropEndWhile_concat (p : α → Bool) (s : List α) (c : α) :
    dropEndWhile p (s ++ [c]) = if p c then dropEndWhile p s else s ++ [c] :=
  List.rdropWhile_concat p s c

/-- Dropping an end does not reach behind what is kept. -/
theorem dropEndWhile_append {p : α → Bool} {c : α} (hc : p c = false) (s t : List α) :
    dropEndWhile p (s ++ c :: t) = s ++ c :: dropEndWhile p t := by
  induction t using List.reverseRecOn with
  | nil =>
    rw [dropEndWhile_concat, hc]
    rfl
  | append_singleton t d ih =>
    rw [← List.cons_append, ← List.append_assoc, dropEndWhile_concat, dropEndWhile_concat, ih]
    split <;> simp

/-- What is left begins as before. -/
theorem mem_head?_of_mem_head?_dropEndWhile {p : α → Bool} {s : List α} {c : α}
    (hc : c ∈ (dropEndWhile p s).head?) : c ∈ s.head? := by
  obtain ⟨rest, hrest⟩ := dropEndWhile_prefix p s
  rw [Option.mem_def, List.head?_eq_some_iff] at hc
  obtain ⟨more, hmore⟩ := hc
  rw [← hrest, hmore]
  rfl

/-- What is left ends with a member that does not pass the test. -/
theorem eq_false_of_mem_getLast?_dropEndWhile {p : α → Bool} {s : List α} {c : α}
    (hc : c ∈ (dropEndWhile p s).getLast?) : p c = false := by
  have hhead := List.head?_dropWhile_not p s.reverse
  rw [dropEndWhile, List.getLast?_reverse, Option.mem_def] at hc
  rwa [hc] at hhead

theorem getLast?_dropTrailingSlashes_ne (s : List Char) : (dropTrailingSlashes s).getLast? ≠ some '/' :=
  fun hlast => by simpa using eq_false_of_mem_getLast?_dropEndWhile (p := (· == '/')) hlast

theorem mem_of_mem_consPiece {c d : α} {piece : List α} {pieces : List (List α)}
    (hpiece : piece ∈ consPiece c pieces) (hd : d ∈ piece) :
    d = c ∨ ∃ piece ∈ pieces, d ∈ piece := by
  cases pieces with
  | nil =>
    rw [consPiece, List.mem_singleton] at hpiece
    subst hpiece
    exact .inl (List.mem_singleton.1 hd)
  | cons first pieces =>
    rw [consPiece, List.mem_cons] at hpiece
    rcases hpiece with rfl | hpiece
    · rcases List.mem_cons.1 hd with rfl | hd
      · exact .inl rfl
      · exact .inr ⟨first, List.mem_cons_self, hd⟩
    · exact .inr ⟨piece, List.mem_cons_of_mem _ hpiece, hd⟩

theorem mem_of_mem_splitOn [BEq α] {sep c : α} {s piece : List α} (hpiece : piece ∈ splitOn sep s)
    (hc : c ∈ piece) : c ∈ s := by
  induction s generalizing piece with
  | nil =>
    rw [splitOn, List.mem_singleton] at hpiece
    exact hpiece ▸ hc
  | cons first rest ih =>
    rw [splitOn] at hpiece
    split at hpiece
    · rcases List.mem_cons.1 hpiece with rfl | hpiece
      · cases hc
      · exact List.mem_cons_of_mem _ (ih hpiece hc)
    · rcases mem_of_mem_consPiece hpiece hc with rfl | ⟨piece, hpiece, hc⟩
      · exact List.mem_cons_self
      · exact List.mem_cons_of_mem _ (ih hpiece hc)

theorem mem_of_mem_join {sep : List α} {pieces : List (List α)} {c : α} (hc : c ∈ join sep pieces) :
    c ∈ sep ∨ ∃ piece ∈ pieces, c ∈ piece := by
  induction pieces with
  | nil => cases hc
  | cons first rest ih =>
    cases rest with
    | nil => exact .inr ⟨first, List.mem_cons_self, hc⟩
    | cons second rest =>
      rw [join, List.append_assoc, List.mem_append, List.mem_append] at hc
      · rcases hc with hc | hc | hc
        · exact .inr ⟨first, List.mem_cons_self, hc⟩
        · exact .inl hc
        · rcases ih hc with hc | ⟨piece, hpiece, hc⟩
          · exact .inl hc
          · exact .inr ⟨piece, List.mem_cons_of_mem _ hpiece, hc⟩
      · simp

theorem consPiece_ne_nil (c : α) (pieces : List (List α)) : consPiece c pieces ≠ [] := by
  cases pieces <;> exact List.cons_ne_nil _ _

theorem splitOn_ne_nil [BEq α] (sep : α) (s : List α) : splitOn sep s ≠ [] := by
  cases s with
  | nil => exact List.cons_ne_nil _ _
  | cons c s =>
    rw [splitOn]
    split
    · exact List.cons_ne_nil _ _
    · exact consPiece_ne_nil _ _

/-- The pieces between separators, joined again, are the text. -/
theorem join_splitOn [BEq α] [LawfulBEq α] (sep : α) (s : List α) : join [sep] (splitOn sep s) = s := by
  induction s with
  | nil => rfl
  | cons c s ih =>
    obtain ⟨piece, pieces, hpieces⟩ := List.exists_cons_of_ne_nil (splitOn_ne_nil sep s)
    rw [hpieces] at ih
    rw [splitOn]
    split
    · rename_i hc
      rw [hpieces, join, ih, beq_iff_eq.1 hc]
      · rfl
      · simp
    · rw [hpieces, consPiece]
      cases pieces with
      | nil => exact congrArg (c :: ·) ih
      | cons second pieces => exact congrArg (c :: ·) ih

theorem splitOn_eq_self [BEq α] [LawfulBEq α] {sep : α} {s : List α} (h : sep ∉ s) :
    splitOn sep s = [s] := by
  induction s with
  | nil => rfl
  | cons c s ih =>
    have hc : (c == sep) = false := beq_eq_false_iff_ne.2 fun heq => h (heq ▸ List.mem_cons_self)
    rw [splitOn, hc, ih fun hmem => h (List.mem_cons_of_mem _ hmem)]
    rfl

theorem splitOn_append [BEq α] [LawfulBEq α] {sep : α} {s : List α} (h : sep ∉ s) (rest : List α) :
    splitOn sep (s ++ sep :: rest) = s :: splitOn sep rest := by
  induction s with
  | nil => rw [List.nil_append, splitOn, beq_self_eq_true, if_pos rfl]
  | cons c s ih =>
    have hc : (c == sep) = false := beq_eq_false_iff_ne.2 fun heq => h (heq ▸ List.mem_cons_self)
    rw [List.cons_append, splitOn, hc, ih fun hmem => h (List.mem_cons_of_mem _ hmem)]
    rfl

end Pieces

theorem mapM_eq_some_map {α β : Type} {f : α → Option β} {g : α → β} {l : List α}
    (h : ∀ a ∈ l, f a = some (g a)) : l.mapM f = some (l.map g) := by
  induction l with
  | nil => rfl
  | cons a l ih =>
    rw [List.mapM_cons, h a List.mem_cons_self, ih fun b hb => h b (List.mem_cons_of_mem _ hb)]
    rfl

/-- What is true of the first 128 characters is true of every ASCII character. -/
theorem of_ascii {P : Char → Prop} (h : ∀ n < 128, P (Char.ofNat n)) {c : Char} (hc : c.toNat < 128) :
    P c := by
  have hchar := h c.toNat hc
  rwa [Char.ofNat_toNat] at hchar

/-- Only the capital letters of ASCII are changed by writing a character in lower case. -/
theorem toLower_eq_self {c : Char} (h : ¬(0x41 ≤ c.toNat ∧ c.toNat ≤ 0x5a)) : c.toLower = c := by
  unfold Char.toLower
  split
  · rename_i hupper
    exact absurd ⟨hupper.1, hupper.2⟩ h
  · rfl

/-- The digits that a number is written with stand for values below the base. -/
theorem exists_digitChar_of_mem_toDigits {b n : Nat} (hb : 1 < b) {c : Char}
    (hc : c ∈ Nat.toDigits b n) : ∃ d < b, c = d.digitChar := by
  induction n using Nat.strongRecOn with
  | ind n ih =>
    rw [Nat.toDigits_eq_if hb] at hc
    split at hc
    · exact ⟨n, ‹n < b›, List.mem_singleton.1 hc⟩
    · rcases List.mem_append.1 hc with hc | hc
      · exact ih (n / b) (Nat.div_lt_self (by omega) hb) hc
      · exact ⟨n % b, Nat.mod_lt _ (by omega), List.mem_singleton.1 hc⟩

/-- A text of numbers that are written one after another has digits and separators. -/
theorem eq_or_exists_digitChar_of_mem_join {b : Nat} (hb : 1 < b) {sep c : Char} {numbers : List Nat}
    (hc : c ∈ join [sep] (numbers.map (Nat.toDigits b))) : c = sep ∨ ∃ d < b, c = d.digitChar := by
  rcases mem_of_mem_join hc with hc | ⟨piece, hpiece, hc⟩
  · exact .inl (List.mem_singleton.1 hc)
  · obtain ⟨n, -, rfl⟩ := List.mem_map.1 hpiece
    exact .inr (exists_digitChar_of_mem_toDigits hb hc)

theorem digitValue?_digitChar : ∀ d < 10, digitValue? d.digitChar = some d := by decide

private theorem isAsciiDigit_digitChar : ∀ d < 10, isAsciiDigit d.digitChar = true := by decide

theorem isAsciiDigit_of_mem_decimal {n : Nat} {c : Char} (hc : c ∈ decimal n) :
    isAsciiDigit c = true := by
  obtain ⟨d, hd, rfl⟩ := exists_digitChar_of_mem_toDigits (by decide) hc
  exact isAsciiDigit_digitChar d hd

theorem notMem_decimal {c : Char} (hc : isAsciiDigit c = false) (n : Nat) : c ∉ decimal n := by
  intro hmem
  rw [isAsciiDigit_of_mem_decimal hmem] at hc
  cases hc

theorem readDigits_append (acc : Nat) (s t : List Char) :
    readDigits acc (s ++ t) = (readDigits acc s).bind fun n => readDigits n t := by
  induction s generalizing acc with
  | nil => rfl
  | cons c s ih =>
    rw [List.cons_append, readDigits, readDigits]
    cases digitValue? c with
    | none => rfl
    | some d => exact ih _

/-- A number is written digit by digit, the last one at the end. -/
theorem decimal_eq (n : Nat) :
    decimal n = if n < 10 then [n.digitChar] else decimal (n / 10) ++ [(n % 10).digitChar] :=
  Nat.toDigits_eq_if (by decide)

/-- Reading the digits of a number gives the number. -/
theorem readDigits_decimal (n : Nat) : readDigits 0 (decimal n) = some n := by
  induction n using Nat.strongRecOn with
  | ind n ih =>
    rw [decimal_eq]
    split
    · rw [readDigits, digitValue?_digitChar n ‹n < 10›]
      simp [readDigits]
    · rw [readDigits_append, ih (n / 10) (by omega), Option.bind_some, readDigits,
        digitValue?_digitChar _ (Nat.mod_lt _ (by decide))]
      have hsum : n / 10 * 10 + n % 10 = n := by omega
      simp [readDigits, hsum]

theorem decimal_ne_nil (n : Nat) : decimal n ≠ [] := by
  rw [decimal_eq]
  split
  · exact List.cons_ne_nil _ _
  · exact List.append_ne_nil_of_right_ne_nil _ (List.cons_ne_nil _ _)

theorem trimList_eq_self {s : List Char} (h : ∀ c ∈ s, isBlank c = false) : trimList s = s := by
  have hdrop : s.dropWhile isBlank = s := by
    cases s with
    | nil => rfl
    | cons c rest => rw [List.dropWhile_cons_of_neg (by simp [h c List.mem_cons_self])]
  rw [trimList, hdrop, dropEndWhile_eq_self h]

private theorem isBlank_digitChar : ∀ d < 10, isBlank d.digitChar = false := by decide

theorem trimList_decimal (n : Nat) : trimList (decimal n) = decimal n := by
  refine trimList_eq_self fun c hc => ?_
  obtain ⟨d, hd, rfl⟩ := exists_digitChar_of_mem_toDigits (by decide) hc
  exact isBlank_digitChar d hd

/-- Reading a number of 32 bits that is written in decimal digits gives the number. -/
theorem readUInt32_decimal (n : UInt32) : readUInt32 (decimal n.toNat) = some n := by
  have hsign : ∀ rest, decimal n.toNat ≠ '+' :: rest := by
    intro rest h
    have hdigit := isAsciiDigit_of_mem_decimal (h ▸ List.mem_cons_self (a := '+'))
    exact absurd hdigit (by decide)
  have hread : readNatBelow UInt32.size (decimal n.toNat) = some n.toNat := by
    have hempty : (decimal n.toNat).isEmpty = false := List.isEmpty_eq_false_iff.2 (decimal_ne_nil _)
    unfold readNatBelow
    split
    · rename_i rest h
      exact absurd h (hsign rest)
    · simp only [hempty, Bool.false_eq_true, if_false, readDigits_decimal, Option.filter_some,
        decide_eq_true n.toNat_lt_size, if_true]
  rw [readUInt32, hread]
  simp

end SiteTech.Text
