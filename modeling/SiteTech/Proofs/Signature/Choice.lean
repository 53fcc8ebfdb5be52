import SiteTech.Proofs.Signature.Phases

namespace SiteTech.Template

/-- A template with one choice: what stands before it, the group that decides, and the two sides. The
backslashes of each part start references by one digit, and no part has a line break. -/
structure Choice where
  front : List Char
  group : Fin 10
  yes : List Char
  no : List Char
  front_refers : RefersOnly front
  yes_refers : RefersOnly yes
  no_refers : RefersOnly no
  yes_ne_nil : yes ≠ []
  colon_notMem_yes : ':' ∉ yes
  newline_notMem : '\n' ∉ front ++ yes ++ no

namespace Choice

/-- How a template with a choice is written. -/
def template (t : Choice) : String :=
  String.ofList (t.front ++ reference t.group ++ '?' :: t.yes ++ ':' :: t.no)

/-- The text of the group that decides. -/
def deciding (t : Choice) (texts : List (List Char)) : List Char := texts[(t.group : Nat)]?.getD []

/-- The side that the group chooses: the first one when it has matched some text. -/
def side (t : Choice) (texts : List (List Char)) : List Char :=
  if t.deciding texts = [] then t.no else t.yes

/-- What the template stands for: the front and the side that the group chooses, filled in at once. -/
def chosen (t : Choice) (texts : List (List Char)) : List Char :=
  substitute texts t.front ++ substitute texts (t.side texts)

/-- What becomes of the template when its choice is not made and its first side is empty. -/
def leftOver (t : Choice) (texts : List (List Char)) : List Char :=
  substitute texts t.front ++ t.deciding texts ++ '?' :: ':' :: substitute texts t.no

/-- The first side has only references to groups before the one that decides, and those are empty. -/
def Vanishes (t : Choice) (texts : List (List Char)) : Prop := substitute (texts.take t.group) t.yes = []

/-- The second side is chosen, and makes a choice that has two sides together with a reference to a later
group that comes to stand before it. -/
def Joins (t : Choice) (texts : List (List Char)) : Prop :=
  t.deciding texts = [] ∧ ∃ (k : Fin 10) (yes no : List Char), k < texts.length ∧
    (fillBelow texts (t.group + 1) (read t.front)).getLast? = some (.group k) ∧
    t.no = '?' :: yes ++ ':' :: no ∧ ':' ∉ yes ∧ substitute (texts.take k) yes ≠ []

instance (t : Choice) (texts : List (List Char)) : Decidable (t.Vanishes texts) :=
  inferInstanceAs (Decidable (substitute (texts.take t.group) t.yes = []))

/-- The parts of a template with a choice. -/
def parts (t : Choice) : List Part :=
  read t.front ++ .group t.group :: .char '?' :: (read t.yes ++ .char ':' :: read t.no)

theorem toList_template (t : Choice) : t.template.toList = write t.parts := by
  rw [template, String.toList_ofList, parts]
  simp [write_read]

/-- Guarding parts around the mark of a choice comes down to guarding them one by one. -/
private theorem guarded_around {bound : Nat} {harmless : List Part → Prop} {front yes no : List Part} {i : Fin 10}
    (hfront : Guarded bound (fun _ => False) front) (hyes : Guarded bound (fun _ => False) yes)
    (hno : Guarded bound harmless no) (hmark : i < bound → harmless (yes ++ .char ':' :: no)) :
    Guarded bound harmless (front ++ .group i :: .char '?' :: (yes ++ .char ':' :: no)) := by
  apply guarded_append hfront
  · refine ⟨fun hi tail htail => ?_, by decide, ?_⟩
    · cases htail
      exact hmark hi
    · have hcolon : Guarded bound harmless (.char ':' :: no) := ⟨by decide, hno⟩
      apply guarded_append hyes hcolon
      intro rest tail k _ _ htail
      cases htail
  · intro rest tail k _ _ htail
    cases htail

variable {t : Choice} {texts : List (List Char)}

theorem side_refers : RefersOnly (t.side texts) := by
  rw [side]
  split
  · exact t.no_refers
  · exact t.yes_refers

theorem getElem?_group (hgroup : t.group < texts.length) : texts[(t.group : Nat)]? = some (t.deciding texts) := by
  rw [deciding, List.getElem?_eq_getElem hgroup, Option.getD_some]

theorem Vanishes.fillBelow_eq_nil (h : t.Vanishes texts) {n : Nat} (hn : t.group ≤ n) :
    fillBelow texts n (read t.yes) = [] := by
  have hgroup : fillBelow texts t.group (read t.yes) = [] := by
    apply eq_nil_of_write_eq_nil
    rw [← substitute_take]
    exact h
  rw [← fillBelow_fillBelow hn, hgroup]
  rfl

/-- What is left over is longer than what the template stands for. -/
theorem Vanishes.leftOver_ne_chosen (h : t.Vanishes texts) (hgroup : t.group < texts.length) :
    t.leftOver texts ≠ t.chosen texts := by
  intro heq
  have hyes : substitute texts t.yes = [] := by
    rw [substitute_eq_fillBelow, h.fillBelow_eq_nil (Nat.le_of_lt hgroup), write_nil]
  have hlength := congrArg List.length heq
  rw [leftOver, chosen, side] at hlength
  split at hlength
  · simp only [List.length_append, List.length_cons] at hlength
    omega
  · simp only [List.length_append, List.length_cons, hyes, List.length_nil] at hlength
    omega

section Phases

variable (hplain : ∀ text ∈ texts, IsPlain text)
include hplain

/-- What is left of a choice that is made has a question mark behind a reference at most where the side begins. -/
private theorem guarded_side {m bound : Nat}
    (hborder : ∀ (k : Fin 10) (tail : List Part), (fillBelow texts m (read t.front)).getLast? = some (.group k) →
      k < bound → fillBelow texts m (read (t.side texts)) = .char '?' :: tail → ClosedOff tail) :
    Guarded bound ClosedOff (fillBelow texts m (read t.front ++ read (t.side texts))) := by
  rw [fillBelow_append]
  apply guarded_append (guarded_fillBelow hplain (guarded_read t.front_refers) m)
    (guarded_fillBelow hplain (guarded_read t.side_refers) m)
  intro rest tail k hfront
  exact hborder k tail (List.getLast?_eq_some_iff.2 ⟨rest, hfront⟩)

theorem exists_of_fillBelow_question {n : Nat} {s : List Char} (hs : RefersOnly s) {tail : List Part}
    (h : fillBelow texts n (read s) = .char '?' :: tail) : ∃ rest, s = '?' :: rest := by
  have hread : Guarded 10 (fun _ => False) (read s) := guarded_read hs
  obtain ⟨tail', -, hfirst | hfalse⟩ :=
    exists_tail_of_fillIn (fun i _ htext => ⟨i.isLt, (isPlain_of_valuesFrom hplain htext).question⟩) hread h
  · exact ⟨write tail', by rw [← write_read s, hfirst, write_char]⟩
  · exact hfalse.elim

/-- A side that starts a choice with the reference before it is the second one, and does not start it when the
sides do not join. -/
theorem closedOff_of_not_joins (h : ¬t.Joins texts) {k : Fin 10} (hk : k < texts.length)
    (hlast : (fillBelow texts (t.group + 1) (read t.front)).getLast? = some (.group k)) {n : Nat}
    {tail tail' : List Part} (htail : fillBelow texts n (read (t.side texts)) = .char '?' :: tail)
    (hopen : ¬ClosedOff tail) (htail' : fillBelow texts k (read (t.side texts)) = .char '?' :: tail') :
    ClosedOff tail' := by
  have hcolon : ':' ∈ t.side texts := by
    by_contra hnone
    have hfilled := notMem_fillBelow hplain (fun _ htext => htext.colon) (char_notMem_read hnone) n
    rw [htail] at hfilled
    exact hopen (.inr fun hmem => hfilled (List.mem_cons_of_mem _ hmem))
  have hempty : t.deciding texts = [] := by
    by_contra hne
    rw [side, if_neg hne] at hcolon
    exact t.colon_notMem_yes hcolon
  rw [side, if_pos hempty] at hcolon htail'
  obtain ⟨rest, hno⟩ := exists_of_fillBelow_question hplain t.no_refers htail'
  rw [hno] at hcolon
  obtain ⟨yes, no, hrest, hyes⟩ := List.eq_append_cons_of_mem ((List.mem_cons.1 hcolon).resolve_left (by decide))
  have hvanished : substitute (texts.take k) yes = [] := by
    by_contra hne
    exact h ⟨hempty, k, yes, no, hk, hlast, by rw [hno, hrest, List.cons_append], hyes, hne⟩
  rw [substitute_take] at hvanished
  rw [hno, hrest, read_cons_of_ne (by decide), read_append_colon, fillBelow_char, fillBelow_append,
    eq_nil_of_write_eq_nil hvanished] at htail'
  cases htail'
  exact .inl ⟨_, rfl⟩

variable (hten : texts.length ≤ 10) (hgroup : t.group < texts.length)
include hten hgroup

/-- The groups before the one that decides are filled in on both sides of the choice. -/
theorem reaches_group : Reaches t.template.toList texts t.group t.parts := by
  have hguarded : Guarded t.group ClosedOff (fillBelow texts 0 t.parts) := by
    rw [fillBelow_zero]
    exact guarded_around (guarded_read t.front_refers) (guarded_read t.yes_refers) (guarded_read t.no_refers)
      fun h => absurd h (Nat.lt_irrefl _)
  rw [toList_template]
  exact (reaches_zero t.parts).next hplain hten (Nat.zero_le _) (Nat.le_of_lt hgroup) hguarded

/-- A choice whose first side has become empty is not made. -/
theorem fillFrom_of_vanishes (h : t.Vanishes texts) :
    fillFrom t.template.toList 0 texts = t.leftOver texts := by
  have hguarded : Guarded texts.length ClosedOff (fillBelow texts t.group t.parts) := by
    rw [parts, fillBelow_append, fillBelow_group_of_le (Nat.le_refl _), fillBelow_char, fillBelow_append,
      fillBelow_char, h.fillBelow_eq_nil (Nat.le_refl _)]
    exact guarded_around (guarded_fillBelow hplain (guarded_read t.front_refers) _) trivial
      (guarded_fillBelow hplain (guarded_read t.no_refers) _) fun _ => .inl ⟨_, rfl⟩
  have hend := (reaches_group hplain hten hgroup).next hplain hten (Nat.le_of_lt hgroup) (Nat.le_refl _) hguarded
  rw [Reaches, List.take_length, parts, fillBelow_append,
    fillBelow_group_of_lt hgroup (getElem?_group hgroup), fillBelow_char, fillBelow_append,
    fillBelow_char, h.fillBelow_eq_nil (Nat.le_of_lt hgroup)] at hend
  rw [hend, leftOver, substitute_eq_fillBelow, substitute_eq_fillBelow]
  simp

variable (hvanishes : ¬t.Vanishes texts)
include hvanishes

/-- A choice whose first side has not become empty is made. -/
theorem reaches_side : Reaches t.template.toList texts (t.group + 1) (read t.front ++ read (t.side texts)) := by
  have hyes : fillBelow texts t.group (read t.yes) ≠ [] := by
    intro hnil
    apply hvanishes
    rw [Vanishes, substitute_take, hnil, write_nil]
  have hbackslash : .char '\\' ∉ read t.yes ++ read t.no := by
    rw [List.mem_append, not_or]
    exact ⟨t.yes_refers.backslash_notMem_read, t.no_refers.backslash_notMem_read⟩
  have hnewline : .char '\n' ∉ read t.no :=
    char_notMem_read fun hmem => t.newline_notMem (List.mem_append_right _ hmem)
  have hside := (reaches_group hplain hten hgroup).choose_side hplain (getElem?_group hgroup)
    (guarded_read t.front_refers) hyes hbackslash (char_notMem_read t.colon_notMem_yes) hnewline
  rwa [← apply_ite read] at hside

/-- The side is filled in with the groups below the one whose reference stands before it. -/
theorem reaches_last {k : Fin 10} (hk : k < texts.length)
    (hlast : (fillBelow texts (t.group + 1) (read t.front)).getLast? = some (.group k)) :
    Reaches t.template.toList texts k (read t.front ++ read (t.side texts)) := by
  have hle : (t.group : Nat) + 1 ≤ k := le_of_group_mem_fillBelow (List.mem_of_getLast? hlast) hk
  apply (reaches_side hplain hten hgroup hvanishes).next hplain hten hle (Nat.le_of_lt hk)
  apply guarded_side hplain
  intro k' tail hlast' hk'
  rw [hlast] at hlast'
  cases hlast'
  exact absurd hk' (Nat.lt_irrefl _)

/-- Once a choice is made, its side is filled in. -/
theorem fillFrom_of_chosen (h : ¬t.Joins texts) : fillFrom t.template.toList 0 texts = t.chosen texts := by
  have hend : Reaches t.template.toList texts texts.length (read t.front ++ read (t.side texts)) := by
    by_cases hopen : ∃ (k : Fin 10) (tail : List Part),
        (fillBelow texts (t.group + 1) (read t.front)).getLast? = some (.group k) ∧ k < texts.length ∧
          fillBelow texts (t.group + 1) (read (t.side texts)) = .char '?' :: tail ∧ ¬ClosedOff tail
    · -- The choice that would start here has lost its first side when the turn of its group comes.
      obtain ⟨k, tail, hlast, hk, htail, hopen⟩ := hopen
      apply (reaches_last hplain hten hgroup hvanishes hk hlast).next hplain hten (Nat.le_of_lt hk) (Nat.le_refl _)
      apply guarded_side hplain
      intro _ _ _ _ htail'
      exact closedOff_of_not_joins hplain h hk hlast htail hopen htail'
    · apply (reaches_side hplain hten hgroup hvanishes).next hplain hten hgroup (Nat.le_refl _)
      apply guarded_side hplain
      intro k tail hlast hk htail
      by_contra hclosed
      exact hopen ⟨k, tail, hlast, hk, htail, hclosed⟩
  rw [Reaches, List.take_length] at hend
  rw [hend, chosen, fillBelow_append, write_append, substitute_eq_fillBelow, substitute_eq_fillBelow]

/-- A second side that joins with a reference before it loses at least its question mark and its colon. -/
theorem fillFrom_ne_of_joins (h : t.Joins texts) : fillFrom t.template.toList 0 texts ≠ t.chosen texts := by
  obtain ⟨hempty, k, yes, no, hk, hlast, hno, hcolon, hyes⟩ := h
  obtain ⟨front, hfront⟩ := List.getLast?_eq_some_iff.1 hlast
  have hside : t.side texts = t.no := by rw [side, if_pos hempty]
  have hread : read t.no = .char '?' :: (read yes ++ .char ':' :: read no) := by
    rw [hno, List.cons_append, read_cons_of_ne (by decide), read_append_colon]
  -- The front ends with the reference once the groups up to the one that decides are filled in.
  have hle : (t.group : Nat) + 1 ≤ k := le_of_group_mem_fillBelow (List.mem_of_getLast? hlast) hk
  have hparts {n : Nat} (hn : k ≤ n) : fillBelow texts n (read t.front ++ read t.no) =
      fillBelow texts n (front ++ .group k :: .char '?' :: (read yes ++ .char ':' :: read no)) := by
    rw [fillBelow_append, ← fillBelow_fillBelow (Nat.le_trans hle hn) (read t.front), hfront, hread,
      ← fillBelow_append, List.append_assoc, List.singleton_append]
  have hreaches := reaches_last hplain hten hgroup hvanishes hk hlast
  rw [hside, Reaches, hparts (Nat.le_refl _)] at hreaches
  -- So the choice of that group is made.
  have hfrontGuarded : Guarded 10 (fun _ => False) front := by
    have hfilled : Guarded 10 (fun _ => False) (fillBelow texts (t.group + 1) (read t.front)) :=
      guarded_fillBelow hplain (guarded_read t.front_refers) _
    rw [hfront] at hfilled
    exact hfilled.of_append
  have hyes' : fillBelow texts k (read yes) ≠ [] := by
    intro hnil
    apply hyes
    rw [substitute_take, hnil, write_nil]
  have hbackslash : .char '\\' ∉ read yes ++ read no := by
    have hall := t.no_refers.backslash_notMem_read
    rw [hread] at hall
    simpa using hall
  have hnewline : '\n' ∉ no := by
    intro hmem
    apply t.newline_notMem
    rw [hno]
    simp [hmem]
  have hmade := Reaches.choose_side hplain (List.getElem?_eq_getElem hk) hreaches hfrontGuarded hyes' hbackslash
    (char_notMem_read hcolon) (char_notMem_read hnewline)
  have hlength := hmade.length_fillFrom_le hplain hten hk (backslash_notMem_side hfrontGuarded hbackslash _)
  intro heq
  rw [heq, chosen, hside, substitute_eq_fillBelow, substitute_eq_fillBelow, ← write_append, ← fillBelow_append,
    hparts (Nat.le_of_lt hk)] at hlength
  exact absurd hlength (Nat.not_le.2 (length_side_lt hk hk front (read yes) (read no) _))

end Phases

end Choice

/-- A template with one choice, filled in with texts that have no signs of a template: the text is what the
template stands for, the front and the side that the group chooses, exactly if the first side does not vanish
and the second one does not join with a reference before it. A choice whose first side vanishes is left over. -/
theorem render_of_choice (t : Choice) {groups : List (Option String)} (hten : groups.length ≤ 10)
    (hgroup : t.group < groups.length) (hplain : ∀ text ∈ textsOf groups, IsPlain text) :
    (render t.template groups = String.ofList (t.chosen (textsOf groups)) ↔
        ¬t.Vanishes (textsOf groups) ∧ ¬t.Joins (textsOf groups)) ∧
      (t.Vanishes (textsOf groups) → render t.template groups = String.ofList (t.leftOver (textsOf groups))) := by
  have hlength : (textsOf groups).length = groups.length := List.length_map _
  rw [← hlength] at hten hgroup
  have hvanished (h : t.Vanishes (textsOf groups)) :
      render t.template groups = String.ofList (t.leftOver (textsOf groups)) :=
    congrArg String.ofList (Choice.fillFrom_of_vanishes hplain hten hgroup h)
  refine ⟨⟨fun hchosen => ?_, fun ⟨hvanishes, hjoins⟩ => ?_⟩, hvanished⟩
  · have hvanishes : ¬t.Vanishes (textsOf groups) := by
      intro hvanishes
      rw [hvanished hvanishes] at hchosen
      exact hvanishes.leftOver_ne_chosen hgroup (String.ofList_injective hchosen)
    refine ⟨hvanishes, fun hjoins => ?_⟩
    exact Choice.fillFrom_ne_of_joins hplain hten hgroup hvanishes hjoins (String.ofList_injective hchosen)
  · exact congrArg String.ofList (Choice.fillFrom_of_chosen hplain hten hgroup hvanishes hjoins)

/-- The version is the mark of a test release, if a number follows it. -/
def testRelease : Choice where
  front := []
  group := 2
  yes := "\\1".toList
  no := "none".toList
  front_refers := by decide
  yes_refers := by decide
  no_refers := by decide
  yes_ne_nil := by decide
  colon_notMem_yes := by decide
  newline_notMem := by decide

/-- The mark is taken when it is there. When it is not, the choice stays in the text. -/
theorem testRelease_rendered :
    (∀ text ∈ textsOf [some "betav2", some "beta", some "2"], IsPlain text) ∧
      render testRelease.template [some "betav2", some "beta", some "2"] = "beta" ∧
    (∀ text ∈ textsOf [some "v2", none, some "2"], IsPlain text) ∧
      testRelease.Vanishes (textsOf [some "v2", none, some "2"]) ∧
      render testRelease.template [some "v2", none, some "2"] = "2?:none" := by
  have hbeta : ∀ text ∈ textsOf [some "betav2", some "beta", some "2"], IsPlain text := by decide
  have hplain : ∀ text ∈ textsOf [some "v2", none, some "2"], IsPlain text := by decide
  have hjoins : ¬testRelease.Joins (textsOf [some "betav2", some "beta", some "2"]) := by
    rintro ⟨hempty, -⟩
    cases hempty
  have hvanishes : testRelease.Vanishes (textsOf [some "v2", none, some "2"]) := by decide
  have hmade := (render_of_choice testRelease (by decide) (by decide) hbeta).1.2 ⟨by decide, hjoins⟩
  have hleft := (render_of_choice testRelease (by decide) (by decide) hplain).2 hvanishes
  refine ⟨hbeta, hmade.trans ?_, hplain, hvanishes, hleft.trans ?_⟩
  · decide
  · decide

/-- A second side that begins with a question mark. -/
def questionSide : Choice where
  front := "\\3".toList
  group := 2
  yes := "a".toList
  no := "?b:c".toList
  front_refers := by decide
  yes_refers := by decide
  no_refers := by decide
  yes_ne_nil := by decide
  colon_notMem_yes := by decide
  newline_notMem := by decide

/-- Choices that are not made by their own group only: the empty mark of a test release is not taken, and the
second side of another choice becomes a choice of the third group. -/
theorem choices_of_other_groups :
    ((∀ text ∈ textsOf [some "v2", none, some "2"], IsPlain text) ∧
        testRelease.chosen (textsOf [some "v2", none, some "2"]) = [] ∧
        render testRelease.template [some "v2", none, some "2"] = "2?:none") ∧
      (∀ text ∈ textsOf [some "z", some "", none, some "z"], IsPlain text) ∧
        questionSide.chosen (textsOf [some "z", some "", none, some "z"]) = "z?b:c".toList ∧
        render questionSide.template [some "z", some "", none, some "z"] = "b" := by
  decide

end SiteTech.Template
