import SiteTech.Proofs.Signature.Substitution

namespace SiteTech.Template

/-- The first digit of a number. -/
def leadingDigit (n : Nat) : Nat := if n < 10 then n else leadingDigit (n / 10)
termination_by n

theorem leadingDigit_of_lt {n : Nat} (h : n < 10) : leadingDigit n = n := by
  rw [leadingDigit, if_pos h]

theorem leadingDigit_lt (n : Nat) : leadingDigit n < 10 := by
  fun_induction leadingDigit n with
  | case1 n h => exact h
  | case2 n h ih => exact ih

theorem leadingDigit_le (n : Nat) : leadingDigit n ≤ n := by
  fun_induction leadingDigit n with
  | case1 n h => exact Nat.le_refl n
  | case2 n h ih => exact Nat.le_trans ih (Nat.div_le_self n 10)

/-- A number is written with its first digit in front. -/
theorem decimal_eq_cons (n : Nat) :
    Text.decimal n = (leadingDigit n).digitChar :: (Text.decimal n).tail := by
  fun_induction leadingDigit n with
  | case1 n h => rw [Text.decimal_eq, if_pos h, List.tail_cons]
  | case2 n h ih => rw [Text.decimal_eq, if_neg h, ih, List.cons_append, List.tail_cons]

theorem reference_eq_cons (n : Nat) :
    reference n = '\\' :: (leadingDigit n).digitChar :: (Text.decimal n).tail := by
  rw [reference, ← decimal_eq_cons]

theorem backslash_mem_reference (n : Nat) : '\\' ∈ reference n := List.mem_cons_self

/-- Nothing is chosen where a character of the mark is missing. -/
theorem choose_eq_self {mark s : List Char} {c : Char} (hmark : c ∈ mark) (hs : c ∉ s) (matched : Bool) :
    choose mark matched s = s := by
  induction s with
  | nil => rfl
  | cons d rest ih =>
    have hhere : choiceHere mark (d :: rest) = none := by
      rw [choiceHere, if_neg]
      intro hprefix
      exact hs ((List.isPrefixOf_iff_prefix.1 hprefix).subset hmark)
    rw [choose, hhere, ih fun hrest => hs (List.mem_cons_of_mem d hrest)]

/-- A text without question marks has no choices, so that filling in a group only replaces references. -/
theorem fill_of_question_notMem {s : List Char} (h : '?' ∉ s) (index : Nat) (text : List Char) :
    fill s index text = Text.replace (reference index) text s := by
  rw [fill, choose_eq_self (List.mem_append_right _ List.mem_cons_self) h]

/-- A text without backslashes has no references. -/
theorem fill_of_backslash_notMem {s : List Char} (h : '\\' ∉ s) (index : Nat) (text : List Char) :
    fill s index text = s := by
  have hnone : ¬reference index <:+: s := fun hmid => h (hmid.subset (backslash_mem_reference index))
  rw [fill, choose_eq_self (List.mem_append_left _ (backslash_mem_reference index)) h,
    Text.replace_eq_self text hnone]

theorem fillFrom_of_backslash_notMem {s : List Char} (h : '\\' ∉ s) (start : Nat) (texts : List (List Char)) :
    fillFrom s start texts = s := by
  induction texts generalizing start with
  | nil => rfl
  | cons text texts ih => rw [fillFrom, fill_of_backslash_notMem h, ih]

theorem notMem_tail_decimal {c : Char} (hc : Text.isAsciiDigit c = false) (n : Nat) :
    c ∉ (Text.decimal n).tail :=
  fun hmem => Text.notMem_decimal hc n (List.mem_of_mem_tail hmem)

theorem question_notMem_reference (n : Nat) : '?' ∉ reference n := by
  rw [reference, List.mem_cons, not_or]
  exact ⟨by decide, Text.notMem_decimal rfl n⟩

/-- A group before that of the first digit leaves the reference as it is. -/
theorem fill_reference_of_lt {index n : Nat} (h : index < leadingDigit n) (text : List Char) :
    fill (reference n) index text = reference n := by
  let i : Fin 10 := ⟨index, Nat.lt_trans h (leadingDigit_lt n)⟩
  have hne : ¬Nat.digitChar i = (leadingDigit n).digitChar := by
    intro heq
    have hsame : i = ⟨leadingDigit n, leadingDigit_lt n⟩ := digitChar_injective heq
    exact absurd (congrArg Fin.val hsame) (Nat.ne_of_lt h)
  have hstart : (reference i).isPrefixOf ('\\' :: Text.decimal n) = false := by
    rw [decimal_eq_cons n, reference_eq i]
    simp [List.isPrefixOf_cons_cons, hne]
  have hrest : ¬reference i <:+: Text.decimal n := by
    intro hmid
    exact Text.notMem_decimal rfl n (hmid.subset (backslash_mem_reference i))
  rw [fill_of_question_notMem (question_notMem_reference n)]
  show Text.replace (reference i) text ('\\' :: Text.decimal n) = _
  rw [Text.replace_cons text hstart, Text.replace_eq_self text hrest, reference]

/-- The group of the first digit takes the reference apart. -/
theorem fill_reference_leadingDigit (n : Nat) (text : List Char) :
    fill (reference n) (leadingDigit n) text = text ++ (Text.decimal n).tail := by
  let i : Fin 10 := ⟨leadingDigit n, leadingDigit_lt n⟩
  have hwritten : reference n = reference i ++ (Text.decimal n).tail := by
    rw [reference_eq_cons n, reference_eq i]
    rfl
  have hrest : ¬reference i <:+: (Text.decimal n).tail := by
    intro hmid
    exact notMem_tail_decimal rfl n (hmid.subset (backslash_mem_reference i))
  rw [fill_of_question_notMem (question_notMem_reference n), hwritten]
  show Text.replace (reference i) text (reference i ++ (Text.decimal n).tail) = _
  rw [Text.replace_append (List.ne_nil_of_mem (backslash_mem_reference i)), Text.replace_eq_self text hrest]

/-- A reference becomes the text of the group of its first digit and the digits behind it, whatever groups
come later. -/
theorem fillFrom_reference {n start : Nat} {texts : List (List Char)} (hstart : start ≤ leadingDigit n)
    (hend : leadingDigit n < start + texts.length) (hplain : ∀ text ∈ texts, '\\' ∉ text) :
    fillFrom (reference n) start texts =
      texts.getD (leadingDigit n - start) [] ++ (Text.decimal n).tail := by
  induction texts generalizing start with
  | nil => exact absurd hend (Nat.not_lt.2 hstart)
  | cons text texts ih =>
    rw [List.forall_mem_cons] at hplain
    rw [List.length_cons] at hend
    rw [fillFrom]
    rcases Nat.lt_or_eq_of_le hstart with hlt | rfl
    · have hnext : leadingDigit n - start = leadingDigit n - (start + 1) + 1 := by omega
      rw [fill_reference_of_lt hlt, ih hlt (by omega) hplain.2, hnext, List.getD_cons_succ]
    · have hfilled : '\\' ∉ text ++ (Text.decimal n).tail := by
        rw [List.mem_append, not_or]
        exact ⟨hplain.1, notMem_tail_decimal rfl n⟩
      rw [fill_reference_leadingDigit, fillFrom_of_backslash_notMem hfilled, Nat.sub_self, List.getD_cons_zero]

/-- A template that is one reference, filled in with texts without backslashes: it becomes the text of the group
of its first digit, with the further digits behind it. That is the text of the group that the reference names
exactly if the group is below 10 or happens to have this text. -/
theorem render_reference {index : Nat} {groups : List (Option String)} (hindex : index < groups.length)
    (hplain : ∀ text ∈ textsOf groups, '\\' ∉ text) :
    render (String.ofList (reference index)) groups =
        String.ofList ((textsOf groups).getD (leadingDigit index) [] ++ (Text.decimal index).tail) ∧
      (render (String.ofList (reference index)) groups = String.ofList ((textsOf groups).getD index []) ↔
        index < 10 ∨ (textsOf groups).getD index [] =
          (textsOf groups).getD (leadingDigit index) [] ++ (Text.decimal index).tail) := by
  have hlength : leadingDigit index < 0 + (textsOf groups).length := by
    rw [textsOf, List.length_map, Nat.zero_add]
    exact Nat.lt_of_le_of_lt (leadingDigit_le index) hindex
  have hrendered : render (String.ofList (reference index)) groups =
      String.ofList ((textsOf groups).getD (leadingDigit index) [] ++ (Text.decimal index).tail) := by
    rw [render, String.toList_ofList, ← textsOf, fillFrom_reference (Nat.zero_le _) hlength hplain, Nat.sub_zero]
  refine ⟨hrendered, ?_⟩
  rw [hrendered, String.ofList_inj]
  constructor
  · exact fun heq => .inr heq.symm
  · rintro (hlt | heq)
    · rw [leadingDigit_of_lt hlt, Text.decimal_eq, if_pos hlt, List.tail_cons, List.append_nil]
    · exact heq.symm

/-- The groups of a match of ten letters, each in a group of its own. -/
def tenLetters : List (Option String) :=
  [some "abcdefghij", some "a", some "b", some "c", some "d", some "e", some "f", some "g", some "h", some "i",
    some "j"]

/-- The ninth group is referred to as it should be, and the tenth is taken for the first with a zero behind it. -/
theorem tenLetters_rendered :
    (∀ text ∈ textsOf tenLetters, '\\' ∉ text) ∧
      render (String.ofList (reference 9)) tenLetters = "i" ∧
      render (String.ofList (reference 10)) tenLetters = "a0" := by
  have hplain : ∀ text ∈ textsOf tenLetters, '\\' ∉ text := by decide
  refine ⟨hplain, ?_, ?_⟩
  · exact ((render_reference (by decide) hplain).2.2 (.inl (by decide))).trans (by decide)
  · refine (render_reference (by decide) hplain).1.trans ?_
    decide +kernel

/-- The tenth group of a match cannot be referred to. -/
theorem tenth_group_is_missed :
    10 < tenLetters.length ∧ (∀ text ∈ textsOf tenLetters, '\\' ∉ text) ∧
      render (String.ofList (reference 10)) tenLetters = "a0" ∧ (textsOf tenLetters).getD 10 [] = "j".toList := by
  decide

end SiteTech.Template
