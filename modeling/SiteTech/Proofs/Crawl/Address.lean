import SiteTech.Crawl.Address
import Mathlib.Data.List.Basic

namespace SiteTech.Address

theorem isRestChar_of_isHostChar {c : Char} (hc : isHostChar c = true) : isRestChar c = true := by
  rw [isRestChar, hc, Bool.true_or]

/-- A text has a character of a host, and then characters of an address, at least one. -/
def IsAfterDot (s : List Char) : Prop :=
  ∃ c t, s = c :: t ∧ isHostChar c = true ∧ t ≠ [] ∧ ∀ d ∈ t, isRestChar d = true

/-- A text has a dot behind characters of hosts, and what may come after a dot. -/
def HasDot (s : List Char) : Prop :=
  ∃ front t, s = front ++ '.' :: t ∧ (∀ d ∈ front, isHostChar d = true) ∧ IsAfterDot t

theorem isAfterDot_cons {c : Char} {s : List Char} :
    IsAfterDot (c :: s) ↔ isHostChar c = true ∧ s ≠ [] ∧ ∀ d ∈ s, isRestChar d = true := by
  constructor
  · rintro ⟨d, t, heq, h⟩
    cases heq
    exact h
  · exact fun h => ⟨c, s, rfl, h⟩

theorem hasDot_cons {c : Char} {s : List Char} :
    HasDot (c :: s) ↔ (c = '.' ∧ IsAfterDot s) ∨ (isHostChar c = true ∧ HasDot s) := by
  constructor
  · rintro ⟨front, t, heq, hfront, ht⟩
    cases front with
    | nil =>
      cases heq
      exact .inl ⟨rfl, ht⟩
    | cons d front =>
      cases heq
      rw [List.forall_mem_cons] at hfront
      exact .inr ⟨hfront.1, front, t, rfl, hfront.2, ht⟩
  · rintro (⟨rfl, hs⟩ | ⟨hc, front, t, rfl, hfront, ht⟩)
    · exact ⟨[], s, rfl, by simp, hs⟩
    · exact ⟨c :: front, t, rfl, List.forall_mem_cons.2 ⟨hc, hfront⟩, ht⟩

theorem IsAfterDot.isRestChar {s : List Char} (h : IsAfterDot s) :
    s ≠ [] ∧ ∀ c ∈ s, isRestChar c = true := by
  obtain ⟨c, t, rfl, hc, -, ht⟩ := h
  exact ⟨List.cons_ne_nil _ _, List.forall_mem_cons.2 ⟨isRestChar_of_isHostChar hc, ht⟩⟩

/-- What the flags ask of the rest of a text. Once a label after a dot has begun, only the kind of the
characters counts, and that there are any. -/
theorem rest_foldl_step (p : Progress) (s : List Char) :
    (s.foldl Progress.step p).rest = true ↔
      (p.rest = true ∧ ∀ c ∈ s, isRestChar c = true) ∨
      (p.label = true ∧ s ≠ [] ∧ ∀ c ∈ s, isRestChar c = true) ∨
      (p.dot = true ∧ IsAfterDot s) ∨ (p.first = true ∧ HasDot s) := by
  induction s generalizing p with
  | nil => simp [IsAfterDot, HasDot]
  | cons c s ih =>
    have hhost := @isRestChar_of_isHostChar c
    have hdot : c = '.' → isHostChar c = true := by
      rintro rfl
      rfl
    have hafter := @IsAfterDot.isRestChar s
    rw [List.foldl_cons, ih]
    simp only [Progress.step, Bool.and_eq_true, Bool.or_eq_true, beq_iff_eq, isAfterDot_cons, hasDot_cons,
      List.forall_mem_cons, ne_eq, reduceCtorEq, not_false_iff, true_and]
    grind

/-- At an index of a text there is a dot, with characters of hosts before it, at least one, and one
right after it. -/
def DotAt (s : List Char) (i : Nat) : Prop :=
  ∃ front c rest, s = front ++ '.' :: c :: rest ∧ front.length = i ∧ front ≠ [] ∧
    (∀ d ∈ front, isHostChar d = true) ∧ isHostChar c = true

theorem DotAt.append {s : List Char} {i : Nat} (h : DotAt s i) (t : List Char) : DotAt (s ++ t) i := by
  obtain ⟨front, c, rest, rfl, hlength, hne, hfront, hc⟩ := h
  exact ⟨front, c, rest ++ t, by simp, hlength, hne, hfront, hc⟩

/-- All characters up to the one after the dot are those of hosts. -/
theorem dotAt_iff {s : List Char} {i : Nat} :
    DotAt s i ↔ ∃ front c rest, s = (front ++ ['.', c]) ++ rest ∧ front.length = i ∧ front ≠ [] ∧
      ∀ d ∈ front ++ ['.', c], isHostChar d = true := by
  have hdot : isHostChar '.' = true := rfl
  simp only [DotAt, List.append_assoc, List.cons_append, List.nil_append, List.forall_mem_append,
    List.forall_mem_cons, hdot, true_and, List.not_mem_nil, false_imp_iff, implies_true, and_true]

/-- If a text goes on with another character than those of hosts, such a dot is not behind it. -/
theorem DotAt.of_append {s t : List Char} {i : Nat} (ht : ∀ c ∈ t.head?, isHostChar c = false)
    (h : DotAt (s ++ t) i) : DotAt s i := by
  obtain ⟨front, c, rest, heq, hlength, hne, hplain⟩ := dotAt_iff.1 h
  refine dotAt_iff.2 ?_
  rcases List.append_eq_append_iff.1 heq with ⟨more, hmore, rfl⟩ | ⟨more, rfl, -⟩
  · cases more with
    | nil =>
      rw [List.append_nil] at hmore
      exact ⟨front, c, [], by rw [hmore, List.append_nil], hlength, hne, hplain⟩
    | cons d more =>
      have hd := hplain d (hmore ▸ List.mem_append_right _ List.mem_cons_self)
      rw [ht d rfl] at hd
      cases hd
  · exact ⟨front, c, more, rfl, hlength, hne, hplain⟩

/-- A text passes for an address exactly if it has characters of addresses only, and a dot between
characters of hosts that is followed by two characters or more. -/
theorem accepts_iff {s : List Char} :
    accepts s = true ↔ (∀ c ∈ s, isRestChar c = true) ∧ ∃ i, DotAt s i ∧ i + 3 ≤ s.length := by
  cases s with
  | nil => simp [accepts, DotAt]
  | cons first s =>
    have hread : accepts (first :: s) = true ↔ isHostChar first = true ∧ HasDot s := by
      rw [accepts, rest_foldl_step]
      simp
    rw [hread]
    constructor
    · rintro ⟨hfirst, front, t, rfl, hfront, ht⟩
      have hchars := ht.isRestChar.2
      obtain ⟨c, rest, rfl, hc, hrest, -⟩ := ht
      have hlength : 0 < rest.length := List.length_pos_iff.2 hrest
      refine ⟨?_, front.length + 1, ⟨first :: front, c, rest, rfl, rfl, List.cons_ne_nil _ _,
        List.forall_mem_cons.2 ⟨hfirst, hfront⟩, hc⟩, ?_⟩
      · intro d hd
        rw [← List.cons_append, List.mem_append, List.mem_cons, List.mem_cons] at hd
        rcases hd with (rfl | hd) | rfl | hd
        · exact isRestChar_of_isHostChar hfirst
        · exact isRestChar_of_isHostChar (hfront d hd)
        · rfl
        · exact hchars d hd
      · simp only [List.length_cons, List.length_append]
        omega
    · rintro ⟨hchars, i, ⟨front, c, rest, heq, hlength, hne, hfront, hc⟩, hlong⟩
      obtain ⟨head, front, rfl⟩ := List.exists_cons_of_ne_nil hne
      rw [List.cons_append, List.cons.injEq] at heq
      obtain ⟨rfl, rfl⟩ := heq
      rw [List.forall_mem_cons] at hfront
      have hrest : rest ≠ [] := by
        rintro rfl
        simp only [List.length_cons, List.length_append, List.length_nil] at hlength hlong
        omega
      refine ⟨hfront.1, front, c :: rest, rfl, hfront.2, c, rest, rfl, hc, hrest, fun d hd => ?_⟩
      exact hchars d (by simp [hd])

end SiteTech.Address
