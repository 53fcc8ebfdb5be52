import SiteTech.Proofs.Signature.Substitution
import Mathlib.Data.List.Flatten

namespace SiteTech.Template

/-- Parts in which the groups below a bound have been filled in. -/
def fillBelow (texts : List (List Char)) (n : Nat) (parts : List Part) : List Part :=
  fillIn (valuesFrom 0 (texts.take n)) parts

/-- A template has become some parts when the groups below a bound have been dealt with, and those groups are
filled in. -/
def Reaches (template : List Char) (texts : List (List Char)) (n : Nat) (parts : List Part) : Prop :=
  fillFrom template 0 (texts.take n) = write (fillBelow texts n parts)

/-- A text that has no character of a template with a meaning of its own, and no line break. -/
structure IsPlain (text : List Char) : Prop where
  backslash : '\\' ∉ text
  question : '?' ∉ text
  colon : ':' ∉ text
  newline : '\n' ∉ text

instance (text : List Char) : Decidable (IsPlain text) :=
  decidable_of_iff ('\\' ∉ text ∧ '?' ∉ text ∧ ':' ∉ text ∧ '\n' ∉ text)
    ⟨fun ⟨h₁, h₂, h₃, h₄⟩ => ⟨h₁, h₂, h₃, h₄⟩, fun h => ⟨h.backslash, h.question, h.colon, h.newline⟩⟩

theorem notMem_write {parts : List Part} {c : Char} (hbackslash : c ≠ '\\')
    (hdigit : Text.isAsciiDigit c = false) (hc : .char c ∉ parts) : c ∉ write parts := by
  intro hmem
  obtain ⟨part, hpart, hmem⟩ := List.mem_flatMap.1 hmem
  cases part with
  | char d =>
    cases List.mem_singleton.1 hmem
    exact hc hpart
  | group i =>
    rcases List.mem_cons.1 hmem with heq | hdecimal
    · exact hbackslash heq
    · rw [Text.isAsciiDigit_of_mem_decimal hdecimal] at hdigit
      cases hdigit

theorem mem_write_of_mem {parts : List Part} {c : Char} (hc : .char c ∈ parts) : c ∈ write parts :=
  List.mem_flatMap.2 ⟨.char c, hc, List.mem_singleton_self c⟩

theorem mem_of_mem_fillIn {value : Nat → Option (List Char)} {parts : List Part} {c : Char}
    (hvalue : ∀ (i : Fin 10) text, value i = some text → c ∉ text) (hc : .char c ∈ fillIn value parts) :
    .char c ∈ parts := by
  obtain ⟨part, hpart, hmem⟩ := List.mem_flatMap.1 hc
  cases part with
  | char d =>
    cases List.mem_singleton.1 hmem
    exact hpart
  | group i =>
    rw [Part.filled] at hmem
    split at hmem
    · rename_i text htext
      obtain ⟨d, hd, heq⟩ := List.mem_map.1 hmem
      cases heq
      exact absurd hd (hvalue i text htext)
    · cases List.mem_singleton.1 hmem

/-- A reference that stays is to a group without text. -/
theorem value_eq_none_of_mem_fillIn {value : Nat → Option (List Char)} {parts : List Part} {i : Fin 10}
    (h : .group i ∈ fillIn value parts) : value i = none := by
  obtain ⟨part, hpart, hmem⟩ := List.mem_flatMap.1 h
  cases part with
  | char c => cases List.mem_singleton.1 hmem
  | group j =>
    rw [Part.filled] at hmem
    split at hmem
    · obtain ⟨d, -, heq⟩ := List.mem_map.1 hmem
      cases heq
    · cases List.mem_singleton.1 hmem
      assumption

theorem char_notMem_read {s : List Char} {c : Char} (hc : c ∉ s) : .char c ∉ read s := by
  intro hmem
  apply hc
  rw [← write_read s]
  exact mem_write_of_mem hmem

theorem RefersOnly.backslash_notMem_read {s : List Char} (h : RefersOnly s) : .char '\\' ∉ read s := by
  have hguarded : Guarded 10 (fun _ => False) (read s) := guarded_read h
  exact hguarded.backslash_notMem

theorem read_cons_of_ne {c : Char} (hc : c ≠ '\\') (s : List Char) : read (c :: s) = .char c :: read s := by
  cases s with
  | nil => rfl
  | cons d s => simp [read, hc]

/-- A colon is no digit, so that references do not reach over it. -/
theorem read_append_colon (s s' : List Char) : read (s ++ ':' :: s') = read s ++ .char ':' :: read s' := by
  have hcolon : index? ':' = none := rfl
  fun_induction read s with
  | case1 => exact read_cons_of_ne (by decide) s'
  | case2 c => simp [read, hcolon, read_cons_of_ne]
  | case3 c d rest index hindex ih => simp [read, hindex, ih]
  | case4 c d rest hnone ih => simp [read, hnone, ← ih]

/-- What follows a question mark starts with a colon or has none, so that no choice starts there. -/
def ClosedOff (tail : List Part) : Prop := (∃ rest, tail = .char ':' :: rest) ∨ .char ':' ∉ tail

theorem ClosedOff.noSides {tail : List Part} (h : ClosedOff tail) : NoSides (write tail) := by
  intro yes no hsplit
  obtain ⟨hwrite, hyes⟩ := Text.splitOnce_eq_some_iff.1 hsplit
  rcases h with ⟨rest, rfl⟩ | hcolon
  · cases yes with
    | nil => exact .inl rfl
    | cons c yes =>
      rw [write_char, List.cons_append] at hwrite
      obtain ⟨rfl, -⟩ := List.cons.inj hwrite
      exact absurd List.mem_cons_self hyes
  · have hmem : ':' ∈ write tail := by
      rw [hwrite]
      exact List.mem_append_right _ List.mem_cons_self
    exact absurd hmem (notMem_write (by decide) (by decide) hcolon)

theorem ClosedOff.fillIn {value : Nat → Option (List Char)}
    (hvalue : ∀ (i : Fin 10) text, value i = some text → ':' ∉ text) {tail : List Part} (h : ClosedOff tail) :
    ClosedOff (fillIn value tail) := by
  rcases h with ⟨rest, rfl⟩ | hcolon
  · exact .inl ⟨_, rfl⟩
  · exact .inr fun hmem => hcolon (mem_of_mem_fillIn hvalue hmem)

theorem eq_nil_of_write_eq_nil {parts : List Part} (h : write parts = []) : parts = [] := by
  cases parts with
  | nil => rfl
  | cons part rest =>
    cases part with
    | char c => cases h
    | group i => cases h

/-- A choice with two sides is made. -/
theorem choose_sides {i : Fin 10} {matched : Bool} {yes no : List Char} (hyes : yes ≠ []) (hcolon : ':' ∉ yes)
    (hno : '\n' ∉ no) :
    choose (reference i ++ ['?']) matched (reference i ++ '?' :: yes ++ ':' :: no) =
      if matched then yes else no := by
  have hsplit : Text.splitOnce ':' (yes ++ ':' :: no) = some (yes, no) :=
    Text.splitOnce_eq_some_iff.2 ⟨rfl, hcolon⟩
  have htext : reference i ++ '?' :: yes ++ ':' :: no = (reference i ++ ['?']) ++ (yes ++ ':' :: no) := by simp
  have hhere : choiceHere (reference i ++ ['?']) (reference i ++ '?' :: yes ++ ':' :: no) = some (yes, no) := by
    rw [htext, choiceHere, if_pos (List.isPrefixOf_iff_prefix.2 (List.prefix_append _ _)), List.drop_left, hsplit]
    simp [hyes, hno]
  rw [reference_eq] at hhere ⊢
  simp only [List.cons_append, List.nil_append] at hhere ⊢
  rw [choose, hhere]

theorem choose_write_sides {front yes no : List Part} {i : Fin 10} (matched : Bool)
    (hfront : Guarded 10 (fun _ => False) front) (hyes : yes ≠ []) (hcolon : .char ':' ∉ yes)
    (hnewline : .char '\n' ∉ no) :
    choose (reference i ++ ['?']) matched (write (front ++ .group i :: .char '?' :: (yes ++ .char ':' :: no))) =
      write (front ++ if matched then yes else no) := by
  have hyes' : write yes ≠ [] := fun hnil => hyes (eq_nil_of_write_eq_nil hnil)
  have hcolon' : ':' ∉ write yes := notMem_write (by decide) (by decide) hcolon
  have hnewline' : '\n' ∉ write no := notMem_write (by decide) (by decide) hnewline
  rw [write_append, write_group, write_char, write_append, write_char,
    choose_write_append i.isLt hfront (by simp [reference]), ← List.cons_append, ← List.append_assoc,
    choose_sides hyes' hcolon' hnewline', write_append, apply_ite write]

theorem fillFrom_append (template : List Char) (start : Nat) (texts texts' : List (List Char)) :
    fillFrom template start (texts ++ texts') =
      fillFrom (fillFrom template start texts) (start + texts.length) texts' := by
  induction texts generalizing template start with
  | nil => rfl
  | cons text texts ih =>
    rw [List.cons_append, fillFrom, ih, fillFrom, List.length_cons]
    congr 1
    omega

theorem digitChar_ne_colon (i : Fin 10) : Nat.digitChar i ≠ ':' := by
  revert i
  decide

/-- A colon of written parts is a part of its own. -/
theorem exists_of_write_eq_append_colon {parts : List Part} {s s' : List Char} (h : write parts = s ++ ':' :: s') :
    ∃ yes no, parts = yes ++ .char ':' :: no ∧ write yes = s ∧ write no = s' := by
  induction parts generalizing s with
  | nil => exact absurd h.symm (List.append_ne_nil_of_right_ne_nil _ (List.cons_ne_nil _ _))
  | cons part rest ih =>
    have hnext {front : List Char} (hrest : write rest = front ++ ':' :: s') (hs : part.chars ++ front = s) :
        ∃ yes no, part :: rest = yes ++ .char ':' :: no ∧ write yes = s ∧ write no = s' := by
      obtain ⟨yes, no, rfl, rfl, hno⟩ := ih hrest
      exact ⟨part :: yes, no, rfl, hs, hno⟩
    cases part with
    | char c =>
      cases s with
      | nil =>
        obtain ⟨rfl, hrest⟩ := List.cons.inj h
        exact ⟨[], rest, rfl, rfl, hrest⟩
      | cons d s =>
        obtain ⟨rfl, hrest⟩ := List.cons.inj h
        exact hnext hrest rfl
    | group j =>
      rw [write_group, reference_eq, List.cons_append, List.singleton_append] at h
      cases s with
      | nil => cases h
      | cons d s =>
        obtain ⟨rfl, hdigit⟩ := List.cons.inj h
        cases s with
        | nil => exact absurd (List.cons.inj hdigit).1 (digitChar_ne_colon j)
        | cons d s =>
          obtain ⟨rfl, hrest⟩ := List.cons.inj hdigit
          exact hnext hrest (by rw [Part.chars, reference_eq]; rfl)

/-- What a choice makes of a text has some of its parts. -/
theorem exists_sublist_choose (i : Fin 10) (matched : Bool) {parts : List Part} (h : .char '\\' ∉ parts) :
    ∃ parts', parts'.Sublist parts ∧
      choose (reference i ++ ['?']) matched (write parts) = write parts' := by
  induction parts with
  | nil => exact ⟨[], .refl _, rfl⟩
  | cons part rest ih =>
    obtain ⟨hpart, hrest⟩ := List.ne_and_not_mem_of_not_mem_cons h
    obtain ⟨rest', hsub, hchoose⟩ := ih hrest
    cases part with
    | char c =>
      have hc : c ≠ '\\' := fun heq => hpart (by rw [heq])
      exact ⟨.char c :: rest', hsub.cons_cons _, by rw [write_char, choose_char hc, hchoose, write_char]⟩
    | group j =>
      by_cases hstarts : j = i → ∀ tail, write rest = '?' :: tail → NoSides tail
      · have hstays : choose (reference i ++ ['?']) matched (write (.group j :: rest)) = write (.group j :: rest') := by
          rw [write_group, choose_reference hstarts, hchoose, write_group]
        exact ⟨.group j :: rest', hsub.cons_cons _, hstays⟩
      · -- The choice is made here, and one of its sides is left.
        simp only [NoSides, not_forall, not_or] at hstarts
        obtain ⟨rfl, tail, htail, yes, no, hsplit, hyes, hno⟩ := hstarts
        obtain ⟨tail', rfl⟩ := head?_write_eq_question rest (by rw [htail]; rfl)
        obtain ⟨hwrite, hcolon⟩ := Text.splitOnce_eq_some_iff.1 hsplit
        obtain ⟨yes', no', rfl, rfl, rfl⟩ :=
          exists_of_write_eq_append_colon ((List.cons.inj htail).2.trans hwrite)
        have hmade : choose (reference j ++ ['?']) matched
            (write (.group j :: .char '?' :: (yes' ++ .char ':' :: no'))) =
              if matched then write yes' else write no' := by
          rw [write_group, write_char, write_append, write_char, ← List.cons_append, ← List.append_assoc]
          exact choose_sides hyes hcolon hno
        rw [hmade]
        cases matched with
        | true => exact ⟨yes', ((List.sublist_append_left _ _).cons _).cons _, rfl⟩
        | false =>
          have hlast := (List.sublist_cons_self (.char ':') no').trans (List.sublist_append_right yes' _)
          exact ⟨no', (hlast.cons _).cons _, rfl⟩

/-- Dealing with groups one after the other makes some of the parts that filling them in at once makes. -/
theorem exists_sublist_fillFrom {start : Nat} {texts : List (List Char)} (hend : start + texts.length ≤ 10)
    (htexts : ∀ text ∈ texts, '\\' ∉ text) {parts : List Part} (h : .char '\\' ∉ parts) :
    ∃ parts', parts'.Sublist (fillIn (valuesFrom start texts) parts) ∧
      fillFrom (write parts) start texts = write parts' := by
  induction texts generalizing start parts with
  | nil =>
    rw [fillIn_valuesFrom_nil]
    exact ⟨parts, .refl _, rfl⟩
  | cons text texts ih =>
    rw [List.length_cons] at hend
    let i : Fin 10 := ⟨start, by omega⟩
    obtain ⟨kept, hkept, hchoose⟩ := exists_sublist_choose i (!text.isEmpty) h
    have hbackslash : .char '\\' ∉ fillIn (valuesFrom i [text]) kept := by
      intro hmem
      refine h (hkept.subset (mem_of_mem_fillIn (fun j text' htext' => ?_) hmem))
      rw [eq_of_valuesFrom_singleton htext']
      exact htexts text List.mem_cons_self
    have hend' : start + 1 + texts.length ≤ 10 := by omega
    obtain ⟨parts', hsub, hfill⟩ :=
      ih hend' (fun text' htext' => htexts text' (List.mem_cons_of_mem _ htext')) hbackslash
    have hfirst : fill (write parts) start text = write (fillIn (valuesFrom i [text]) kept) := by
      rw [fill, hchoose]
      exact replace_write (i := i) text fun hmem => h (hkept.subset hmem)
    refine ⟨parts', ?_, by rw [fillFrom, hfirst, hfill]⟩
    have hall := fillIn_valuesFrom_append start [text] texts parts
    rw [List.length_singleton, List.singleton_append] at hall
    rw [← hall]
    exact hsub.trans ((hkept.flatMap _).flatMap _)

section Phases

variable {texts : List (List Char)}

@[simp] theorem fillBelow_append (n : Nat) (parts parts' : List Part) :
    fillBelow texts n (parts ++ parts') = fillBelow texts n parts ++ fillBelow texts n parts' :=
  fillIn_append _ _ _

@[simp] theorem fillBelow_char (n : Nat) (c : Char) (parts : List Part) :
    fillBelow texts n (.char c :: parts) = .char c :: fillBelow texts n parts := rfl

theorem fillBelow_zero (parts : List Part) : fillBelow texts 0 parts = parts := by
  rw [fillBelow, List.take_zero, fillIn_valuesFrom_nil]

theorem valuesFrom_take (n i : Nat) :
    valuesFrom 0 (texts.take n) i = if i < n then texts[i]? else none := by
  rw [valuesFrom_zero]
  exact List.getElem?_take

/-- A group is not among those below it. -/
theorem fillBelow_group_of_le {n : Nat} {i : Fin 10} (h : n ≤ i) (parts : List Part) :
    fillBelow texts n (.group i :: parts) = .group i :: fillBelow texts n parts := by
  have hnone : valuesFrom 0 (texts.take n) i = none := by
    rw [valuesFrom_take, if_neg (Nat.not_lt.2 h)]
  rw [fillBelow, fillIn_group, Part.filled, hnone]
  rfl

theorem fillBelow_group_of_lt {n : Nat} {i : Fin 10} (h : i < n) {text : List Char}
    (htext : texts[(i : Nat)]? = some text) (parts : List Part) :
    fillBelow texts n (.group i :: parts) = text.map .char ++ fillBelow texts n parts := by
  have hvalue : valuesFrom 0 (texts.take n) i = some text := by
    rw [valuesFrom_take, if_pos h, htext]
  rw [fillBelow, fillIn_group, Part.filled, hvalue]
  rfl

/-- A reference that stays is to a group that is still to come, or to none at all. -/
theorem le_of_group_mem_fillBelow {n : Nat} {i : Fin 10} {parts : List Part}
    (h : .group i ∈ fillBelow texts n parts) (hi : i < texts.length) : n ≤ i := by
  have hnone := value_eq_none_of_mem_fillIn h
  rw [valuesFrom_take] at hnone
  by_contra hlt
  rw [if_pos (Nat.not_le.1 hlt), List.getElem?_eq_getElem hi] at hnone
  cases hnone

theorem take_append_drop_take {m n : Nat} (h : m ≤ n) :
    texts.take m ++ (texts.take n).drop m = texts.take n := by
  have hsplit := List.take_append_drop m (texts.take n)
  rwa [List.take_take, Nat.min_eq_left h] at hsplit

theorem fillIn_fillBelow {m n : Nat} (hmn : m ≤ n) (hn : n ≤ texts.length) (parts : List Part) :
    fillIn (valuesFrom m ((texts.take n).drop m)) (fillBelow texts m parts) = fillBelow texts n parts := by
  have happend := fillIn_valuesFrom_append 0 (texts.take m) ((texts.take n).drop m) parts
  rw [List.length_take_of_le (Nat.le_trans hmn hn), Nat.zero_add, take_append_drop_take hmn] at happend
  exact happend

theorem fillBelow_fillBelow {m n : Nat} (hmn : m ≤ n) (parts : List Part) :
    fillBelow texts n (fillBelow texts m parts) = fillBelow texts n parts := by
  rw [fillBelow, fillBelow, fillIn_fillIn, fillBelow]
  congr 1
  funext i
  rw [valuesFrom_take, valuesFrom_take]
  by_cases hm : i < m
  · rw [if_pos hm, if_pos (Nat.lt_of_lt_of_le hm hmn), Option.or_self]
  · rw [if_neg hm, Option.none_or]

theorem substitute_take (n : Nat) (s : List Char) :
    substitute (texts.take n) s = write (fillBelow texts n (read s)) := substitute_eq _ _

theorem substitute_eq_fillBelow (s : List Char) :
    substitute texts s = write (fillBelow texts texts.length (read s)) := by
  rw [← substitute_take, List.take_length]

variable {template : List Char} {m n : Nat}

theorem reaches_zero (parts : List Part) : Reaches (write parts) texts 0 parts := by
  rw [Reaches, fillBelow_zero, List.take_zero, fillFrom]

theorem fillFrom_take (hmn : m ≤ n) (hn : n ≤ texts.length) (template : List Char) :
    fillFrom template 0 (texts.take n) =
      fillFrom (fillFrom template 0 (texts.take m)) m ((texts.take n).drop m) := by
  have happend := fillFrom_append template 0 (texts.take m) ((texts.take n).drop m)
  rwa [take_append_drop_take hmn, List.length_take_of_le (Nat.le_trans hmn hn), Nat.zero_add] at happend

theorem backslash_notMem_side {front yes no : List Part} (hfront : Guarded 10 (fun _ => False) front)
    (h : .char '\\' ∉ yes ++ no) (text : List Char) : .char '\\' ∉ front ++ if text = [] then no else yes := by
  rw [List.mem_append, not_or] at h ⊢
  refine ⟨hfront.backslash_notMem, ?_⟩
  split
  · exact h.2
  · exact h.1

/-- A side is shorter than the choice that it is taken from. -/
theorem length_side_lt {i : Fin 10} (hi : i < n) (hin : i < texts.length) (front yes no : List Part)
    (text : List Char) :
    (write (fillBelow texts n (front ++ if text = [] then no else yes))).length <
      (write (fillBelow texts n (front ++ .group i :: .char '?' :: (yes ++ .char ':' :: no)))).length := by
  rw [fillBelow_append, fillBelow_append, fillBelow_group_of_lt hi (List.getElem?_eq_getElem hin), fillBelow_char,
    fillBelow_append, fillBelow_char]
  simp only [write_append, write_map_char, write_char, List.length_append, List.length_cons]
  split
  · omega
  · omega

variable (hplain : ∀ text ∈ texts, IsPlain text)
include hplain

theorem isPlain_of_valuesFrom {start i : Nat} {text : List Char}
    (h : valuesFrom start (texts.take n) i = some text) : IsPlain text :=
  hplain text (List.mem_of_mem_take (valuesFrom_eq_some h).2)

/-- Texts without signs of a template leave references that stand before no question mark. -/
theorem guarded_fillBelow {bound : Nat} {harmless : List Part → Prop} {parts : List Part}
    (h : Guarded 10 (fun _ => False) parts) (n : Nat) : Guarded bound harmless (fillBelow texts n parts) := by
  have hvalue : ∀ (i : Fin 10) text, valuesFrom 0 (texts.take n) i = some text →
      (i : Nat) < 10 ∧ '\\' ∉ text ∧ '?' ∉ text := by
    intro i text htext
    have htext' := isPlain_of_valuesFrom hplain htext
    exact ⟨i.isLt, htext'.backslash, htext'.question⟩
  exact (guarded_fillIn hvalue (fun _ h => h) h).imp (fun i _ => i.isLt) fun _ h => h.elim

theorem notMem_fillBelow {c : Char} (hc : ∀ text, IsPlain text → c ∉ text) {parts : List Part}
    (hparts : .char c ∉ parts) (n : Nat) : .char c ∉ fillBelow texts n parts :=
  fun hmem => hparts (mem_of_mem_fillIn (fun _ text htext => hc text (isPlain_of_valuesFrom hplain htext)) hmem)

/-- As long as no reference starts a choice, the next groups are filled in. -/
theorem Reaches.next (hten : texts.length ≤ 10) {parts : List Part} (h : Reaches template texts m parts)
    (hmn : m ≤ n) (hn : n ≤ texts.length) (hguarded : Guarded n ClosedOff (fillBelow texts m parts)) :
    Reaches template texts n parts := by
  have hplain' : ∀ text ∈ (texts.take n).drop m, IsPlain text :=
    fun text htext => hplain text (List.mem_of_mem_take (List.mem_of_mem_drop htext))
  have hkeep : ∀ (i : Nat) (tail : List Part), ∀ text ∈ (texts.take n).drop m, ClosedOff tail →
      ClosedOff (fillIn (valuesFrom i [text]) tail) := by
    intro i tail text htext htail
    apply htail.fillIn
    intro j text' htext'
    rw [eq_of_valuesFrom_singleton htext']
    exact (hplain' text htext).colon
  have hend : m + ((texts.take n).drop m).length ≤ n := by
    rw [List.length_drop, List.length_take]
    omega
  rw [Reaches, fillFrom_take hmn hn, h, ← fillIn_fillBelow hmn hn]
  exact fillFrom_write (Nat.le_trans hn hten) (fun _ => ClosedOff.noSides) hkeep
    (fun text htext => ⟨(hplain' text htext).backslash, (hplain' text htext).question⟩) hend hguarded

/-- Whatever choices are still made, the text does not become longer than that of the parts. -/
theorem Reaches.length_fillFrom_le (hten : texts.length ≤ 10) {parts : List Part}
    (h : Reaches template texts n parts) (hn : n ≤ texts.length) (hparts : .char '\\' ∉ parts) :
    (fillFrom template 0 texts).length ≤ (write (fillBelow texts texts.length parts)).length := by
  have hend : n + ((texts.take texts.length).drop n).length ≤ 10 := by
    rw [List.length_drop, List.length_take]
    omega
  have htexts : ∀ text ∈ (texts.take texts.length).drop n, '\\' ∉ text :=
    fun text htext => (hplain text (List.mem_of_mem_take (List.mem_of_mem_drop htext))).backslash
  have hbackslash := notMem_fillBelow hplain (fun _ htext => htext.backslash) hparts n
  obtain ⟨parts', hsub, hfill⟩ := exists_sublist_fillFrom hend htexts hbackslash
  have hall := fillFrom_take hn (Nat.le_refl _) template
  rw [h, hfill, List.take_length] at hall
  rw [fillIn_fillBelow hn (Nat.le_refl _)] at hsub
  rw [hall]
  exact (hsub.flatMap Part.chars).length_le

/-- A choice whose first side has not become empty is made. -/
theorem Reaches.choose_side {front yes no : List Part} {i : Fin 10} {text : List Char}
    (htext : texts[(i : Nat)]? = some text)
    (h : Reaches template texts i (front ++ .group i :: .char '?' :: (yes ++ .char ':' :: no)))
    (hfront : Guarded 10 (fun _ => False) front) (hyes : fillBelow texts i yes ≠ [])
    (hbackslash : .char '\\' ∉ yes ++ no) (hcolon : .char ':' ∉ yes) (hnewline : .char '\n' ∉ no) :
    Reaches template texts (i + 1) (front ++ if text = [] then no else yes) := by
  have hfront' : Guarded 10 (fun _ => False) (fillBelow texts i front) := guarded_fillBelow hplain hfront i
  have hcolon' := notMem_fillBelow hplain (fun _ htext => htext.colon) hcolon i
  have hnewline' := notMem_fillBelow hplain (fun _ htext => htext.newline) hnewline i
  have hside : choose (reference i ++ ['?']) (!text.isEmpty)
      (write (fillBelow texts i (front ++ .group i :: .char '?' :: (yes ++ .char ':' :: no)))) =
        write (fillBelow texts i (front ++ if text = [] then no else yes)) := by
    rw [fillBelow_append, fillBelow_group_of_le (Nat.le_refl _), fillBelow_char, fillBelow_append, fillBelow_char,
      choose_write_sides _ hfront' hyes hcolon' hnewline', fillBelow_append]
    by_cases hempty : text = []
    · simp [hempty]
    · simp [hempty]
  have hbackslash' : .char '\\' ∉ fillBelow texts i (front ++ if text = [] then no else yes) :=
    notMem_fillBelow hplain (fun _ htext => htext.backslash) (backslash_notMem_side hfront hbackslash text) i
  obtain ⟨hi, hget⟩ := List.getElem?_eq_some_iff.1 htext
  have hnext : (texts.take (i + 1)).drop i = [text] := by
    rw [List.take_succ_eq_append_getElem hi, List.drop_left' (List.length_take_of_le (Nat.le_of_lt hi)), hget]
  rw [Reaches, fillFrom_take (Nat.le_succ i) hi, h, ← fillIn_fillBelow (Nat.le_succ i) hi, hnext, fillFrom,
    fillFrom, fill, hside, replace_write _ hbackslash']

end Phases

end SiteTech.Template
