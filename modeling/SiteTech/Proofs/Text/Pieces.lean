import SiteTech.Proofs.Text.Basic

namespace SiteTech.Text

variable {α : Type} {sep s : List α}

theorem join_cons {piece : List α} {pieces : List (List α)} (h : pieces ≠ []) :
    join sep (piece :: pieces) = piece ++ sep ++ join sep pieces := by
  rw [join]
  simpa using h

theorem join_consPiece {c : α} {pieces : List (List α)} (h : pieces ≠ []) :
    join sep (consPiece c pieces) = c :: join sep pieces := by
  obtain ⟨piece, pieces, rfl⟩ := List.exists_cons_of_ne_nil h
  cases pieces <;> rfl

variable [BEq α]

private theorem piecesFrom_ne_nil (skip : Nat) : piecesFrom sep skip s ≠ [] := by
  induction s generalizing skip with
  | nil => exact List.cons_ne_nil _ _
  | cons c rest ih =>
    cases skip with
    | succ skip => exact ih skip
    | zero =>
      rw [piecesFrom]
      split
      · exact List.cons_ne_nil _ _
      · exact consPiece_ne_nil _ _

private theorem piecesFrom_eq (skip : Nat) : piecesFrom sep skip s = pieces sep (s.drop skip) := by
  induction skip generalizing s with
  | zero => rfl
  | succ skip ih =>
    cases s with
    | nil => rfl
    | cons c rest => exact ih

/-- Where no occurrence starts, a character stays. -/
theorem replace_cons {old : List α} (new : List α) {c : α} {rest : List α}
    (h : old.isPrefixOf (c :: rest) = false) : replace old new (c :: rest) = c :: replace old new rest := by
  rw [replace, pieces, piecesFrom, if_neg (by simp [h]), join_consPiece (piecesFrom_ne_nil 0)]
  rfl

variable [LawfulBEq α]

private theorem join_piecesFrom (hsep : sep ≠ []) (skip : Nat) :
    join sep (piecesFrom sep skip s) = s.drop skip := by
  induction s generalizing skip with
  | nil => simp [piecesFrom, join]
  | cons c rest ih =>
    cases skip with
    | succ skip => exact ih skip
    | zero =>
      rw [piecesFrom]
      split
      · rename_i hprefix
        obtain ⟨t, ht⟩ := List.isPrefixOf_iff_prefix.1 hprefix
        obtain ⟨first, others, rfl⟩ := List.exists_cons_of_ne_nil hsep
        cases ht
        rw [join_cons (piecesFrom_ne_nil _), ih]
        simp
      · rw [join_consPiece (piecesFrom_ne_nil _), ih, List.drop_zero, List.drop_zero]

/-- The pieces of a text, joined again, are the text. -/
theorem join_pieces (hsep : sep ≠ []) (s : List α) : join sep (pieces sep s) = s := join_piecesFrom hsep 0

private theorem not_infix_of_mem_piecesFrom (hsep : sep ≠ []) (skip : Nat) :
    ∃ first others, piecesFrom sep skip s = first :: others ∧ first <+: s.drop skip ∧
      ∀ piece ∈ first :: others, ¬sep <:+: piece := by
  induction s generalizing skip with
  | nil => exact ⟨[], [], by simp [piecesFrom], by simp, by simpa using hsep⟩
  | cons c rest ih =>
    cases skip with
    | succ skip => exact ih skip
    | zero =>
      rw [piecesFrom]
      split
      · obtain ⟨first, others, heq, -, hnone⟩ := ih (sep.length - 1)
        refine ⟨[], first :: others, by rw [heq], List.nil_prefix, fun piece hpiece => ?_⟩
        rcases List.mem_cons.1 hpiece with rfl | hpiece
        · simpa using hsep
        · exact hnone piece hpiece
      · rename_i hstart
        obtain ⟨first, others, heq, hfirst, hnone⟩ := ih 0
        have hcons : c :: first <+: c :: rest := List.cons_prefix_cons.2 ⟨rfl, hfirst⟩
        refine ⟨c :: first, others, by rw [heq, consPiece], hcons, fun piece hpiece => ?_⟩
        rcases List.mem_cons.1 hpiece with rfl | hpiece
        · intro hinfix
          rcases List.infix_cons_iff.1 hinfix with hfront | hinfix
          · exact hstart (List.isPrefixOf_iff_prefix.2 (hfront.trans hcons))
          · exact hnone first List.mem_cons_self hinfix
        · exact hnone piece (List.mem_cons_of_mem _ hpiece)

/-- The new text stands in the place of an occurrence, and what follows is dealt with on its own. -/
theorem replace_append {old : List α} (hne : old ≠ []) (new rest : List α) :
    replace old new (old ++ rest) = new ++ replace old new rest := by
  obtain ⟨c, old, rfl⟩ := List.exists_cons_of_ne_nil hne
  have hprefix : (c :: old).isPrefixOf (c :: (old ++ rest)) = true :=
    List.isPrefixOf_iff_prefix.2 (List.prefix_append (c :: old) rest)
  rw [replace, pieces, List.cons_append, piecesFrom, if_pos hprefix, join_cons (piecesFrom_ne_nil _),
    piecesFrom_eq, List.length_cons, Nat.add_sub_cancel, List.drop_left]
  rfl

/-- No piece of a text has the separator in it. -/
theorem not_infix_of_mem_pieces (hsep : sep ≠ []) {piece : List α} (hpiece : piece ∈ pieces sep s) :
    ¬sep <:+: piece := by
  obtain ⟨first, others, heq, -, hnone⟩ := not_infix_of_mem_piecesFrom (s := s) hsep 0
  rw [pieces, heq] at hpiece
  exact hnone piece hpiece

theorem pieces_eq_self (h : ¬sep <:+: s) : pieces sep s = [s] := by
  induction s with
  | nil => rfl
  | cons c rest ih =>
    rw [List.infix_cons_iff, not_or] at h
    rw [pieces, piecesFrom, if_neg fun hprefix => h.1 (List.isPrefixOf_iff_prefix.1 hprefix)]
    exact congrArg (consPiece c) (ih h.2)

/-- A text without the old text stays. -/
theorem replace_eq_self {old : List α} (new : List α) (h : ¬old <:+: s) : replace old new s = s := by
  rw [replace, pieces_eq_self h, join]

/-- A text is cut at its first separator. -/
theorem splitOnce_eq_some_iff {sep : α} {front back : List α} :
    splitOnce sep s = some (front, back) ↔ s = front ++ sep :: back ∧ sep ∉ front := by
  induction s generalizing front with
  | nil => simp [splitOnce]
  | cons c rest ih =>
    rw [splitOnce]
    split
    · rename_i hc
      cases beq_iff_eq.1 hc
      cases front with
      | nil => simp [eq_comm]
      | cons d front =>
        simp only [Option.some.injEq, Prod.mk.injEq, List.nil_eq, reduceCtorEq, false_and, false_iff, not_and,
          not_not, List.cons_append, List.cons.injEq]
        rintro ⟨rfl, -⟩
        exact List.mem_cons_self
    · rename_i hc
      have hne : c ≠ sep := fun heq => hc (beq_iff_eq.2 heq)
      rw [Option.map_eq_some_iff]
      constructor
      · rintro ⟨⟨front', back'⟩, hsplit, heq⟩
        cases heq
        obtain ⟨rfl, hnot⟩ := ih.1 hsplit
        exact ⟨rfl, by simpa [hnot] using hne.symm⟩
      · rintro ⟨heq, hnot⟩
        cases front with
        | nil => exact absurd (List.cons.inj heq).1 hne
        | cons d front =>
          obtain ⟨rfl, hrest⟩ := List.cons.inj heq
          exact ⟨(front, back), ih.2 ⟨hrest, fun hmem => hnot (List.mem_cons_of_mem _ hmem)⟩, rfl⟩

section Cutting

variable {a b : α} (hab : a ≠ b)
include hab

theorem pieces_append (h : ¬[a, b] <:+: s) (rest : List α) :
    pieces [a, b] (s ++ a :: b :: rest) = s :: pieces [a, b] rest := by
  induction s with
  | nil =>
    rw [List.nil_append, pieces, piecesFrom, if_pos (by simp)]
    rfl
  | cons c s ih =>
    rw [List.infix_cons_iff, not_or] at h
    have hstart : ¬[a, b].isPrefixOf (c :: (s ++ a :: b :: rest)) = true := by
      intro hprefix
      obtain ⟨rfl, hsecond⟩ := List.cons_prefix_cons.1 (List.isPrefixOf_iff_prefix.1 hprefix)
      cases s with
      | nil => exact hab (List.cons_prefix_cons.1 hsecond).1.symm
      | cons d s => exact h.1 (List.cons_prefix_cons.2 ⟨rfl, by simpa using hsecond⟩)
    rw [List.cons_append, pieces, piecesFrom, if_neg hstart]
    exact congrArg (consPiece c) (ih h.2)

/-- Parts without the separator are the pieces of the text that they are joined to. -/
theorem pieces_join {parts : List (List α)} (hne : parts ≠ []) (h : ∀ part ∈ parts, ¬[a, b] <:+: part) :
    pieces [a, b] (join [a, b] parts) = parts := by
  induction parts with
  | nil => exact absurd rfl hne
  | cons part others ih =>
    have hpart := h part List.mem_cons_self
    cases others with
    | nil => exact pieces_eq_self hpart
    | cons second others =>
      rw [join_cons (List.cons_ne_nil _ _), List.append_assoc, List.cons_append, List.cons_append,
        List.nil_append, pieces_append hab hpart,
        ih (List.cons_ne_nil _ _) fun part hpart => h part (List.mem_cons_of_mem _ hpart)]

/-- Every text is joined of parts without the separator in one way. -/
theorem existsUnique_parts (s : List α) :
    ∃! parts : List (List α), parts ≠ [] ∧ (∀ part ∈ parts, ¬[a, b] <:+: part) ∧ join [a, b] parts = s := by
  have hsep : [a, b] ≠ [] := List.cons_ne_nil _ _
  refine ⟨pieces [a, b] s, ⟨piecesFrom_ne_nil 0, fun _ => not_infix_of_mem_pieces hsep, join_pieces hsep s⟩, ?_⟩
  rintro parts ⟨hne, hparts, rfl⟩
  exact (pieces_join hab hne hparts).symm

end Cutting

end SiteTech.Text
