import SiteTech.Text.Normal
import Mathlib.Data.List.Basic

namespace SiteTech.Text

theorem findDecomposition_eq_some {n lo hi : Nat} {d : Decomposition} (h : findDecomposition n lo hi = some d) :
    d ∈ decompositions.toList ∧ d.whole = n := by
  fun_induction findDecomposition n lo hi with
  | case1 => cases h
  | case2 lo hi _ mid d' _ _ ih => exact ih h
  | case3 lo hi _ mid d' _ _ _ ih => exact ih h
  | case4 lo hi _ mid d' hd hlow hhigh =>
    cases h
    exact ⟨Array.mem_toList_iff.2 (Array.mem_of_getElem? hd), by omega⟩
  | case5 => cases h

/-- What the rows of the table preserve, and what holds of the parts of composed syllables, is preserved by
decomposing. -/
theorem forall_mem_decomposeChar {P : Nat → Prop} (hhangul : ∀ n ≤ 0xd7a3, ∀ m ∈ hangulParts n, P m)
    (hrow : ∀ d ∈ decompositions.toList, P d.whole → P d.first ∧ ∀ m ∈ d.second, P m) {fuel n : Nat}
    (hn : P n) : ∀ m ∈ decomposeChar fuel n, P m := by
  induction fuel generalizing n with
  | zero => simpa [decomposeChar] using hn
  | succ fuel ih =>
    rw [decomposeChar]
    split
    · simpa using hn
    split
    · rename_i hsyllable
      exact hhangul n hsyllable.2
    split
    · simpa using hn
    · rename_i d hfound
      obtain ⟨hd, hwhole⟩ := findDecomposition_eq_some hfound
      obtain ⟨hfirst, hsecond⟩ := hrow d hd (hwhole ▸ hn)
      intro m hm
      rcases List.mem_append.1 hm with hm | hm
      · exact ih hfirst m hm
      · split at hm
        · rename_i second hsome
          exact hsecond m (List.mem_singleton.1 hm ▸ hsome)
        · cases hm

theorem mem_of_mem_insertMark {n cls : Nat} {marks : List (Nat × Nat)} {mark : Nat × Nat}
    (h : mark ∈ insertMark n cls marks) : mark = (n, cls) ∨ mark ∈ marks := by
  induction marks with
  | nil => exact .inl (List.mem_singleton.1 h)
  | cons first marks ih =>
    rw [insertMark] at h
    split at h
    · rcases List.mem_cons.1 h with rfl | h
      · exact .inr List.mem_cons_self
      · exact (ih h).imp_right (List.mem_cons_of_mem _)
    · exact List.mem_cons.1 h

theorem mem_of_mem_orderMarks {done : List Nat} {marks : List (Nat × Nat)} {s : List Nat} {n : Nat}
    (h : n ∈ orderMarks done marks s) : n ∈ done ∨ n ∈ marks.map (·.1) ∨ n ∈ s := by
  fun_induction orderMarks done marks s with
  | case1 done marks =>
    rw [List.mem_reverse, List.mem_append] at h
    rcases h with h | h
    · exact .inr (.inl h)
    · exact .inl h
  | case2 done marks first s cls hzero ih =>
    rcases ih h with h | h | h
    · rcases List.mem_cons.1 h with rfl | h
      · exact .inr (.inr List.mem_cons_self)
      · rcases List.mem_append.1 h with h | h
        · exact .inr (.inl h)
        · exact .inl h
    · cases h
    · exact .inr (.inr (List.mem_cons_of_mem _ h))
  | case3 done marks first s cls hzero ih =>
    rcases ih h with h | h | h
    · exact .inl h
    · obtain ⟨mark, hmark, rfl⟩ := List.mem_map.1 h
      rcases mem_of_mem_insertMark hmark with rfl | hmark
      · exact .inr (.inr List.mem_cons_self)
      · exact .inr (.inl (List.mem_map_of_mem hmark))
    · exact .inr (.inr (List.mem_cons_of_mem _ h))

theorem composePair_eq_some {a b n : Nat} (h : composePair a b = some n) :
    0xac00 ≤ n ∨ ∃ d ∈ decompositions.toList, d.whole = n := by
  unfold composePair at h
  split at h
  · rw [Option.some.injEq] at h
    exact .inl (by omega)
  split at h
  · rw [Option.some.injEq] at h
    exact .inl (by omega)
  · obtain ⟨d, hd, rfl⟩ := Option.map_eq_some_iff.1 h
    exact .inr ⟨d, Array.mem_toList_iff.2 (Array.mem_of_find?_eq_some hd), rfl⟩

/-- The characters after composing were there before, or two compose to them. -/
theorem forall_mem_compose {P : Nat → Prop} (hpair : ∀ a b n, composePair a b = some n → P n)
    {done between s : List Nat} {starter : Option Nat} {last : Nat} (hdone : ∀ n ∈ done, P n)
    (hstarter : ∀ n ∈ starter, P n) (hbetween : ∀ n ∈ between, P n) (hs : ∀ n ∈ s, P n) :
    ∀ n ∈ compose done starter between last s, P n := by
  have hread : ∀ {between starter done}, (∀ n ∈ done, P n) → (∀ n ∈ starter, P n) →
      (∀ n ∈ between, P n) → ∀ n ∈ between ++ Option.toList starter ++ done, P n := by
    intro between starter done hdone hstarter hbetween n hn
    simp only [List.mem_append, Option.mem_toList] at hn
    rcases hn with (hn | hn) | hn
    · exact hbetween n hn
    · exact hstarter n hn
    · exact hdone n hn
  -- A composed character takes the place of the starter; all others are put behind those before them.
  fun_induction compose done starter between last s with
  | case1 done starter between last =>
    intro n hn
    exact hread hdone hstarter hbetween n (List.mem_reverse.1 hn)
  | case2 done starter between last first s cls joined composed hjoined ih =>
    rw [List.forall_mem_cons] at hs
    have hcomposed : P composed := by
      simp only [joined] at hjoined
      split at hjoined
      · split at hjoined
        · exact hpair _ _ _ hjoined
        · cases hjoined
      · cases hjoined
    exact ih hdone (by simpa using hcomposed) hbetween hs.2
  | case3 done starter between last first s cls joined hjoined hzero ih =>
    rw [List.forall_mem_cons] at hs
    exact ih (hread hdone hstarter hbetween) (by simpa using hs.1) (by simp) hs.2
  | case4 done starter between last first s cls joined hjoined hzero ih =>
    rw [List.forall_mem_cons] at hs
    exact ih hdone hstarter (List.forall_mem_cons.2 ⟨hs.1, hbetween⟩) hs.2

end SiteTech.Text
