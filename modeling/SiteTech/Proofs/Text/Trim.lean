import SiteTech.Proofs.Text.Basic
import Mathlib.Data.List.TakeWhile

namespace SiteTech.Text

section Ends

variable {α : Type} {p : α → Bool}

theorem dropEndWhile_append_of_forall {s t : List α} (ht : ∀ c ∈ t, p c = true) :
    dropEndWhile p (s ++ t) = dropEndWhile p s := by
  rw [dropEndWhile, List.reverse_append, List.dropWhile_append_of_pos fun c hc => ht c (List.mem_reverse.1 hc),
    dropEndWhile]

theorem exists_eq_dropEndWhile (p : α → Bool) (s : List α) :
    ∃ back, s = dropEndWhile p s ++ back ∧ ∀ c ∈ back, p c = true := by
  refine ⟨(s.reverse.takeWhile p).reverse, ?_, fun c hc => List.mem_takeWhile_imp (List.mem_reverse.1 hc)⟩
  rw [dropEndWhile, ← List.reverse_append, List.takeWhile_append_dropWhile, List.reverse_reverse]

end Ends

/-- A text of nothing but blanks. -/
def Blanks : Type := {s : List Char // ∀ c ∈ s, isBlank c = true}

/-- Blanks around a text do not count. -/
theorem trimList_append (front back : Blanks) (s : List Char) :
    trimList (front.1 ++ s ++ back.1) = trimList s := by
  rw [List.append_assoc, trimList, List.dropWhile_append_of_pos front.2, trimList, List.dropWhile_append]
  split
  · rename_i hblank
    rw [List.isEmpty_iff.1 hblank, List.dropWhile_eq_nil_iff.2 back.2]
  · exact dropEndWhile_append_of_forall back.2

/-- A text is its trimmed form with blanks around it. -/
theorem exists_eq_trimList (s : List Char) : ∃ front back : Blanks, s = front.1 ++ trimList s ++ back.1 := by
  obtain ⟨back, hback, hblank⟩ := exists_eq_dropEndWhile isBlank (s.dropWhile isBlank)
  refine ⟨⟨s.takeWhile isBlank, fun c hc => List.mem_takeWhile_imp hc⟩, ⟨back, hblank⟩, ?_⟩
  rw [List.append_assoc, trimList, ← hback, List.takeWhile_append_dropWhile]

theorem trimList_trimList (s : List Char) : trimList (trimList s) = trimList s := by
  obtain ⟨front, back, hs⟩ := exists_eq_trimList s
  rw [← trimList_append front back (trimList s), ← hs]

theorem mem_of_mem_trimList {s : List Char} {c : Char} (hc : c ∈ trimList s) : c ∈ s := by
  obtain ⟨front, back, hs⟩ := exists_eq_trimList s
  rw [hs]
  exact List.mem_append_left _ (List.mem_append_right _ hc)

/-- Nothing is left of a text exactly if it is blank. -/
theorem trimList_eq_nil_iff {s : List Char} : trimList s = [] ↔ ∀ c ∈ s, isBlank c = true := by
  constructor
  · intro hnil
    obtain ⟨front, back, hs⟩ := exists_eq_trimList s
    rw [hnil, List.append_nil] at hs
    rw [hs]
    exact List.forall_mem_append.2 ⟨front.2, back.2⟩
  · intro hblank
    rw [trimList, List.dropWhile_eq_nil_iff.2 hblank]
    rfl

/-- A trimmed text begins with no blank. -/
theorem isBlank_of_mem_head?_trimList {s : List Char} {c : Char} (hc : c ∈ (trimList s).head?) : isBlank c = false := by
  have hhead := List.head?_dropWhile_not isBlank s
  rwa [mem_head?_of_mem_head?_dropEndWhile hc] at hhead

/-- A text stays when it is trimmed exactly if it neither begins nor ends with a blank. -/
theorem trimList_eq_self_iff {s : List Char} :
    trimList s = s ↔ (∀ c ∈ s.head?, isBlank c = false) ∧ ∀ c ∈ s.getLast?, isBlank c = false := by
  constructor
  · intro hsame
    rw [← hsame]
    exact ⟨fun c => isBlank_of_mem_head?_trimList, fun c => eq_false_of_mem_getLast?_dropEndWhile⟩
  · rintro ⟨hfirst, hlast⟩
    have hfront : s.dropWhile isBlank = s := by
      cases s with
      | nil => rfl
      | cons c rest => exact List.dropWhile_cons_of_neg (by simp [hfirst c rfl])
    rw [trimList, hfront]
    refine List.rdropWhile_eq_self_iff.2 fun hne => ?_
    simp [hlast _ (List.getLast?_eq_some_getLast hne)]

/-- Trimming does not reach behind a character that is no blank, from either side. -/
theorem trimList_append_cons {c : Char} (hc : isBlank c = false) (s t : List Char) :
    trimList (s ++ c :: t) = s.dropWhile isBlank ++ c :: dropEndWhile isBlank t := by
  have hfront : (s ++ c :: t).dropWhile isBlank = s.dropWhile isBlank ++ c :: t := by
    rw [List.dropWhile_append]
    split
    · rename_i hblank
      rw [List.isEmpty_iff.1 hblank, List.dropWhile_cons_of_neg (by simp [hc]), List.nil_append]
    · rfl
  rw [trimList, hfront, dropEndWhile_append hc]

theorem trimList_dropWhile (s : List Char) : trimList (s.dropWhile isBlank) = trimList s := by
  rw [trimList, List.dropWhile_idempotent, trimList]

theorem trimList_dropEndWhile (s : List Char) : trimList (dropEndWhile isBlank s) = trimList s := by
  obtain ⟨back, hs, hblank⟩ := exists_eq_dropEndWhile isBlank s
  have happend := trimList_append ⟨[], by simp⟩ ⟨back, hblank⟩ (dropEndWhile isBlank s)
  rwa [List.nil_append, ← hs, eq_comm] at happend

section Separators

variable {α : Type} [BEq α] [LawfulBEq α] {sep : α}

theorem notMem_before (sep : α) (s : List α) : sep ∉ before sep s := fun hmem => by
  simpa using List.mem_takeWhile_imp hmem

private theorem bne_of_notMem {s : List α} (h : sep ∉ s) : ∀ c ∈ s, (c != sep) = true :=
  fun _ hc => bne_iff_ne.2 fun heq => h (heq ▸ hc)

theorem before_eq_self {s : List α} (h : sep ∉ s) : before sep s = s :=
  List.takeWhile_eq_self_iff.2 (bne_of_notMem h)

theorem before_append {s : List α} (h : sep ∉ s) (rest : List α) : before sep (s ++ sep :: rest) = s := by
  rw [before, List.takeWhile_append_of_pos (bne_of_notMem h), List.takeWhile_cons_of_neg (by simp), List.append_nil]

/-- A text is what stands before its separator, with the rest behind the separator if there is one. -/
theorem exists_eq_before (sep : α) (s : List α) :
    ∃ rest : Option (List α), s = before sep s ++ rest.elim [] (sep :: ·) := by
  cases hdrop : s.dropWhile (· != sep) with
  | nil =>
    rw [List.dropWhile_eq_nil_iff] at hdrop
    refine ⟨none, ?_⟩
    rw [before, List.takeWhile_eq_self_iff.2 hdrop, Option.elim_none, List.append_nil]
  | cons c rest =>
    have hc : c = sep := by
      have hhead := List.head?_dropWhile_not (· != sep) s
      rw [hdrop] at hhead
      simpa using hhead
    subst hc
    refine ⟨some rest, ?_⟩
    rw [before, Option.elim_some, ← hdrop, List.takeWhile_append_dropWhile]

theorem splitOnce_eq_none_iff {s : List α} : splitOnce sep s = none ↔ sep ∉ s := by
  induction s with
  | nil => simp [splitOnce]
  | cons c s ih =>
    rw [splitOnce, List.mem_cons, not_or]
    by_cases hc : c = sep
    · simp [hc]
    · simp [hc, ih, Ne.symm hc]

end Separators

end SiteTech.Text
