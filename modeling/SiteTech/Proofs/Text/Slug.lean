import SiteTech.Text.Slug
import SiteTech.Proofs.Text.Pieces

namespace SiteTech.Text

/-- Whether a character is a small ASCII letter or an ASCII digit. -/
def isSmallAlnum (c : Char) : Bool := ('a' ≤ c && c ≤ 'z') || ('0' ≤ c && c ≤ '9')

/-- The longest runs of members that pass a test, in order: what other members part, without empty
pieces. -/
def runs {α : Type} (p : α → Bool) (s : List α) : List (List α) :=
  (s.splitOnP fun c => !p c).filter fun piece => !piece.isEmpty

section Runs

variable {α : Type} {p : α → Bool}

/-- A member that does not pass the test parts the runs before it from those behind it. -/
theorem runs_append {c : α} (hc : p c = false) (front rest : List α) :
    runs p (front ++ c :: rest) = runs p front ++ runs p rest := by
  rw [runs, List.splitOnP_append_cons _ _ (by simp [hc]), List.filter_append]
  rfl

theorem runs_cons_of_not {c : α} (hc : p c = false) (rest : List α) : runs p (c :: rest) = runs p rest :=
  runs_append hc [] rest

theorem runs_concat_of_not {c : α} (hc : p c = false) (front : List α) :
    runs p (front ++ [c]) = runs p front := by
  rw [runs_append hc]
  exact List.append_nil _

theorem runs_singleton {c : α} (hc : p c = true) : runs p [c] = [[c]] := by
  simp [runs, List.splitOnP_cons_eq_if_modifyHead, hc]

/-- A member in front of a run belongs to it. -/
theorem runs_cons_cons {c d : α} (hc : p c = true) (hd : p d = true) (rest : List α) :
    runs p (c :: d :: rest) = consPiece c (runs p (d :: rest)) ∧ runs p (d :: rest) ≠ [] := by
  obtain ⟨piece, pieces, hpieces⟩ :=
    List.exists_cons_of_ne_nil (List.splitOnP_ne_nil (fun c => !p c) rest)
  simp [runs, List.splitOnP_cons_eq_if_modifyHead, hc, hd, hpieces, consPiece]

/-- Changing members between runs in such a way that they still do not pass the test keeps the runs. -/
theorem runs_map {f : α → α} (hkeep : ∀ c, p c = true → f c = c) (hpart : ∀ c, p c = false → p (f c) = false)
    (front s : List α) : runs p (front ++ s.map f) = runs p (front ++ s) := by
  induction s generalizing front with
  | nil => rfl
  | cons c s ih =>
    rw [List.map_cons]
    cases hc : p c with
    | true => simpa [hkeep c hc] using ih (front ++ [c])
    | false =>
      rw [runs_append (hpart c hc), runs_append hc]
      exact congrArg _ (ih [])

end Runs

/-- A character as a slug has it before dashes are dropped. -/
def dashed (c : Char) : Char := if isSlugChar c then c else '-'

theorem isSlugChar_iff {c : Char} : isSlugChar c = true ↔ isSmallAlnum c = true ∨ c = '-' := by
  simp [isSlugChar, isSmallAlnum, or_assoc]

theorem isSlugChar_dashed (c : Char) : isSlugChar (dashed c) = true := by
  unfold dashed
  split
  · assumption
  · rfl

theorem runs_dashed (s : List Char) : runs isSmallAlnum (s.map dashed) = runs isSmallAlnum s := by
  refine runs_map (fun c hc => ?_) (fun c hc => ?_) [] s
  · rw [dashed, if_pos (isSlugChar_iff.2 (.inl hc))]
  · unfold dashed
    split
    · exact hc
    · rfl

theorem runs_collapseDashes (front s : List Char) :
    runs isSmallAlnum (front ++ collapseDashes s) = runs isSmallAlnum (front ++ s) := by
  have hdash : isSmallAlnum '-' = false := by decide
  induction s generalizing front with
  | nil => rfl
  | cons c s ih =>
    rw [collapseDashes]
    split
    · -- Two dashes part the same runs as one of them.
      rename_i htwo
      simp only [Bool.and_eq_true, beq_iff_eq] at htwo
      obtain ⟨rest, rfl⟩ := List.head?_eq_some_iff.1 htwo.2
      rw [ih, htwo.1, runs_append hdash, runs_append hdash, runs_cons_of_not hdash]
    · have hshift := ih (front ++ [c])
      rwa [List.append_assoc, List.append_assoc] at hshift

theorem head?_collapseDashes (s : List Char) : (collapseDashes s).head? = s.head? := by
  induction s with
  | nil => rfl
  | cons c s ih =>
    rw [collapseDashes]
    split
    · rename_i htwo
      simp only [Bool.and_eq_true, beq_iff_eq] at htwo
      rw [ih, htwo.2, htwo.1]
      rfl
    · rfl

theorem not_infix_collapseDashes (s : List Char) : ¬['-', '-'] <:+: collapseDashes s := by
  induction s with
  | nil => simp [collapseDashes]
  | cons c s ih =>
    rw [collapseDashes]
    split
    · exact ih
    · rename_i hone
      rw [List.infix_cons_iff, not_or]
      refine ⟨fun hprefix => hone ?_, ih⟩
      obtain ⟨rfl, rest, hrest⟩ := List.cons_prefix_cons.1 hprefix
      rw [← head?_collapseDashes, ← hrest]
      rfl

theorem mem_of_mem_collapseDashes {c : Char} {s : List Char} (h : c ∈ collapseDashes s) : c ∈ s := by
  induction s with
  | nil => exact h
  | cons d s ih =>
    rw [collapseDashes] at h
    split at h
    · exact List.mem_cons_of_mem _ (ih h)
    · rcases List.mem_cons.1 h with rfl | h
      · exact List.mem_cons_self
      · exact List.mem_cons_of_mem _ (ih h)

theorem dropDash_cases (s : List Char) :
    (s = '-' :: dropDash s) ∨ (dropDash s = s ∧ s.head? ≠ some '-') := by
  unfold dropDash
  split
  · exact .inl rfl
  · rename_i hnot
    refine .inr ⟨rfl, fun hhead => ?_⟩
    obtain ⟨rest, rfl⟩ := List.head?_eq_some_iff.1 hhead
    exact hnot rest rfl

theorem dropDash_suffix (s : List Char) : dropDash s <:+ s := by
  rcases dropDash_cases s with h | h
  · exact ⟨['-'], h.symm⟩
  · exact ⟨[], h.1⟩

theorem head?_dropDash {s : List Char} (h : ¬['-', '-'] <:+: s) : (dropDash s).head? ≠ some '-' := by
  rcases dropDash_cases s with hs | hs
  · intro hhead
    obtain ⟨rest, hrest⟩ := List.head?_eq_some_iff.1 hhead
    rw [hs, hrest] at h
    exact h (List.prefix_append ['-', '-'] rest).isInfix
  · rw [hs.1]
    exact hs.2

theorem stripDashes_prefix_dropDash (s : List Char) : stripDashes s <+: dropDash s := by
  have hsuffix := List.reverse_prefix.2 (dropDash_suffix (dropDash s).reverse)
  rwa [List.reverse_reverse] at hsuffix

theorem stripDashes_infix_self (s : List Char) : stripDashes s <:+: s :=
  (stripDashes_prefix_dropDash s).isInfix.trans (dropDash_suffix s).isInfix

theorem head?_stripDashes {s : List Char} (h : ¬['-', '-'] <:+: s) : (stripDashes s).head? ≠ some '-' := by
  intro hhead
  obtain ⟨rest, hrest⟩ := List.head?_eq_some_iff.1 hhead
  obtain ⟨back, hback⟩ := stripDashes_prefix_dropDash s
  rw [hrest] at hback
  exact head?_dropDash h (by rw [← hback]; rfl)

theorem getLast?_stripDashes {s : List Char} (h : ¬['-', '-'] <:+: s) :
    (stripDashes s).getLast? ≠ some '-' := by
  rw [stripDashes, List.getLast?_reverse]
  refine head?_dropDash fun hpair => h ?_
  have hpair' : ['-', '-'] <:+: dropDash s := by simpa using List.reverse_infix.2 hpair
  exact hpair'.trans (dropDash_suffix s).isInfix

theorem runs_dropDash (s : List Char) : runs isSmallAlnum (dropDash s) = runs isSmallAlnum s := by
  rcases dropDash_cases s with h | h
  · have hdash := runs_cons_of_not (p := isSmallAlnum) (c := '-') (by decide) (dropDash s)
    rwa [← h, eq_comm] at hdash
  · rw [h.1]

theorem runs_stripDashes (s : List Char) : runs isSmallAlnum (stripDashes s) = runs isSmallAlnum s := by
  rw [← runs_dropDash s]
  rcases dropDash_cases (dropDash s).reverse with h | h
  · have hlast : dropDash s = stripDashes s ++ ['-'] := by
      rw [stripDashes, ← List.reverse_cons, ← h, List.reverse_reverse]
    rw [hlast, runs_concat_of_not (by decide)]
  · rw [stripDashes, h.1, List.reverse_reverse]

/-- A text of small letters, digits and single dashes that does not end with a dash is its runs with dashes
between them, up to a dash in front. -/
theorem join_runs {s : List Char} (hchars : ∀ c ∈ s, isSlugChar c = true) (hsingle : ¬['-', '-'] <:+: s)
    (hlast : s.getLast? ≠ some '-') : join ['-'] (runs isSmallAlnum s) = dropDash s := by
  induction s with
  | nil => rfl
  | cons c s ih =>
    rw [List.infix_cons_iff, not_or] at hsingle
    have hchars' : ∀ d ∈ s, isSlugChar d = true := fun d hd => hchars d (List.mem_cons_of_mem _ hd)
    have hlast' : s.getLast? ≠ some '-' := by
      intro heq
      rw [List.getLast?_cons, heq] at hlast
      exact hlast rfl
    have hrest := ih hchars' hsingle.2 hlast'
    rcases isSlugChar_iff.1 (hchars c List.mem_cons_self) with hc | rfl
    · have hkeep : dropDash (c :: s) = c :: s := by
        rcases dropDash_cases (c :: s) with h | h
        · rw [(List.cons.inj h).1] at hc
          exact absurd hc (by decide)
        · exact h.1
      rw [hkeep]
      cases s with
      | nil => rw [runs_singleton hc, join]
      | cons d s =>
        rcases isSlugChar_iff.1 (hchars' d List.mem_cons_self) with hd | rfl
        · obtain ⟨hruns, hne⟩ := runs_cons_cons hc hd s
          rcases dropDash_cases (d :: s) with h | h
          · rw [(List.cons.inj h).1] at hd
            exact absurd hd (by decide)
          · rw [hruns, join_consPiece hne, hrest, h.1]
        · -- A dash between two runs: the text goes on behind it.
          have hparted := runs_append (p := isSmallAlnum) (c := '-') (by decide) [c] s
          have hbehind := runs_cons_of_not (p := isSmallAlnum) (c := '-') (by decide) s
          rw [hbehind, dropDash] at hrest
          have hne : runs isSmallAlnum s ≠ [] := by
            intro hnone
            rw [hnone, join] at hrest
            rw [← hrest] at hlast'
            exact hlast' rfl
          rw [List.singleton_append, runs_singleton hc, List.singleton_append] at hparted
          rw [hparted, join_cons hne, hrest]
          rfl
    · have hfront : dropDash s = s := by
        rcases dropDash_cases s with h | h
        · rw [h] at hsingle
          exact absurd (List.prefix_append ['-', '-'] (dropDash s)) hsingle.1
        · exact h.1
      rw [runs_cons_of_not (by decide), hrest, hfront, dropDash]

/-- A text that is a slug: small letters, digits and single dashes, none of them at an end. -/
structure IsSlug (s : List Char) : Prop where
  chars : ∀ c ∈ s, isSlugChar c = true
  single : ¬['-', '-'] <:+: s
  head : s.head? ≠ some '-'
  last : s.getLast? ≠ some '-'

theorem isSlug_slugList (s : List Char) : IsSlug (slugList s) where
  chars c hc := by
    have hmem := mem_of_mem_collapseDashes ((stripDashes_infix_self _).subset hc)
    obtain ⟨d, -, rfl⟩ := List.mem_map.1 hmem
    exact isSlugChar_dashed d
  single hpair := not_infix_collapseDashes _ (hpair.trans (stripDashes_infix_self _))
  head := head?_stripDashes (not_infix_collapseDashes _)
  last := getLast?_stripDashes (not_infix_collapseDashes _)

/-- A slug has the runs of the text in lower case. -/
theorem runs_slugList (s : List Char) : runs isSmallAlnum (slugList s) = runs isSmallAlnum (lowerList s) := by
  have hcollapse := runs_collapseDashes [] ((lowerList s).map dashed)
  rw [slugList, runs_stripDashes]
  exact hcollapse.trans (runs_dashed _)

/-- A slug is its runs with dashes between them. -/
theorem IsSlug.join_runs {s : List Char} (h : IsSlug s) : join ['-'] (runs isSmallAlnum s) = s := by
  rw [Text.join_runs h.chars h.single h.last]
  rcases dropDash_cases s with hs | hs
  · rw [hs] at h
    exact absurd rfl h.head
  · exact hs.1

private theorem lowerChar_of_isSlugChar {c : Char} (hc : isSlugChar c = true) : lowerChar c = [c] := by
  have hascii : c.toNat < 128 := by
    simp only [isSlugChar, Bool.or_eq_true, Bool.and_eq_true, decide_eq_true_eq, beq_iff_eq] at hc
    rcases hc with (⟨-, hz⟩ | ⟨-, hnine⟩) | rfl
    · exact Nat.lt_of_le_of_lt hz (by decide)
    · exact Nat.lt_of_le_of_lt hnine (by decide)
    · decide
  exact of_ascii (P := fun c => isSlugChar c = true → lowerChar c = [c]) (by decide) hascii hc

/-- A slug is in lower case. -/
theorem lowerList_of_isSlugChar {s : List Char} (h : ∀ c ∈ s, isSlugChar c = true) : lowerList s = s := by
  have hfrom (before : List Char) : lowerFrom before s = s := by
    induction s generalizing before with
    | nil => rfl
    | cons c s ih =>
      have hc := h c List.mem_cons_self
      have hsigma : c ≠ capitalSigma := by
        rintro rfl
        exact absurd hc (by decide)
      rw [lowerFrom, if_neg hsigma, lowerChar_of_isSlugChar hc,
        ih (fun d hd => h d (List.mem_cons_of_mem _ hd)), List.singleton_append]
  exact hfrom []

/-- The slug of a name is made of the runs of small letters and digits of the name in lower case, with single
dashes between them. So it has no other characters, no dash at an end, no two dashes side by side, and is the
slug of itself. -/
theorem slug_joins_runs (name : String) :
    slug name = String.ofList (join ['-'] (runs isSmallAlnum (lower name).toList)) ∧
      (∀ c ∈ (slug name).toList, isSmallAlnum c = true ∨ c = '-') ∧
      (slug name).toList.head? ≠ some '-' ∧ (slug name).toList.getLast? ≠ some '-' ∧
      ¬['-', '-'] <:+: (slug name).toList ∧ slug (slug name) = slug name := by
  have hslug := isSlug_slugList name.toList
  have hjoin : join ['-'] (runs isSmallAlnum (lowerList name.toList)) = slugList name.toList := by
    rw [← runs_slugList, hslug.join_runs]
  have hself : slugList (slugList name.toList) = slugList name.toList := by
    rw [← (isSlug_slugList (slugList name.toList)).join_runs, runs_slugList,
      lowerList_of_isSlugChar hslug.chars, hslug.join_runs]
  have hlower : (lower name).toList = lowerList name.toList := String.toList_ofList
  have htext : (slug name).toList = slugList name.toList := String.toList_ofList
  rw [htext, hlower, hjoin]
  refine ⟨rfl, fun c hc => isSlugChar_iff.1 (hslug.chars c hc), hslug.head, hslug.last, hslug.single, ?_⟩
  rw [slug, htext, hself, slug]

example : slug "  C++ / Qt " = "c-qt" := by decide

end SiteTech.Text
