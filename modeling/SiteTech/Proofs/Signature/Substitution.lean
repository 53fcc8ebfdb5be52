import SiteTech.Signature.Template
import SiteTech.Proofs.Text.Pieces
import Mathlib.Data.List.Basic

namespace SiteTech.Template

/-- A part of a template: a character, or a reference to a group by one digit. -/
inductive Part where
  | char (c : Char)
  | group (index : Fin 10)

/-- How a part is written. -/
def Part.chars : Part → List Char
  | char c => [c]
  | group index => reference index

/-- How parts are written. -/
def write (parts : List Part) : List Char := parts.flatMap Part.chars

/-- The index that a digit stands for. -/
def index? (c : Char) : Option (Fin 10) :=
  (Text.digitValue? c).bind fun d => if h : d < 10 then some ⟨d, h⟩ else none

/-- Reads a template: a backslash before a digit is a reference, and all other characters stand for
themselves. -/
def read : List Char → List Part
  | [] => []
  | [c] => [.char c]
  | c :: d :: rest =>
    match if c = '\\' then index? d else none with
    | some index => .group index :: read rest
    | none => .char c :: read (d :: rest)

/-- What a part becomes when some groups have texts. A reference to another group stays. -/
def Part.filled (value : Nat → Option (List Char)) : Part → List Part
  | char c => [char c]
  | group index =>
    match value index with
    | some text => text.map char
    | none => [group index]

/-- Fills in all groups that have texts, at once. -/
def fillIn (value : Nat → Option (List Char)) (parts : List Part) : List Part :=
  parts.flatMap (Part.filled value)

/-- Puts texts in the place of the references to the groups of a template, all at once. References to other
groups stay. -/
def substitute (texts : List (List Char)) (s : List Char) : List Char :=
  write (fillIn (fun i => texts[i]?) (read s))

/-- Each backslash of a text is directly followed by a decimal digit, and no such reference is directly
followed by a question mark. -/
def RefersOnly (s : List Char) : Prop :=
  ∀ n, s[n]? = some '\\' → s[n + 1]?.any Text.isAsciiDigit = true ∧ s[n + 2]? ≠ some '?'

instance (s : List Char) : Decidable (RefersOnly s) :=
  decidable_of_iff
    (∀ n < s.length, s[n]? = some '\\' → s[n + 1]?.any Text.isAsciiDigit = true ∧ s[n + 2]? ≠ some '?')
    ⟨fun h n hn => h n (List.getElem?_eq_some_iff.1 hn).1 hn, fun h n _ hn => h n hn⟩

/-- The texts of the groups of a match. A group without part in the match has the empty text. -/
def textsOf (groups : List (Option String)) : List (List Char) := groups.map fun g => (g.getD "").toList

theorem reference_eq (i : Fin 10) : reference i = ['\\', Nat.digitChar i] := by
  rw [reference, Text.decimal_eq, if_pos i.isLt]

theorem index?_digitChar (i : Fin 10) : index? (Nat.digitChar i) = some i := by
  rw [index?, Text.digitValue?_digitChar i i.isLt, Option.bind_some, dif_pos i.isLt]

/-- A character between the digits 0 and 9 is one of them. -/
private theorem exists_index?_of_digit {c : Char} (hlow : '0' ≤ c) (hhigh : c ≤ '9') :
    ∃ i, index? c = some i ∧ Nat.digitChar i = c := by
  have hlow' : 48 ≤ c.toNat := hlow
  have hhigh' : c.toNat ≤ 57 := hhigh
  have hlt : c.toNat - '0'.toNat < 10 := by
    show c.toNat - 48 < 10
    omega
  refine ⟨⟨c.toNat - '0'.toNat, hlt⟩, ?_, ?_⟩
  · rw [index?, Text.digitValue?, if_pos ⟨hlow, hhigh⟩, Option.bind_some, dif_pos hlt]
  · apply Char.toNat_inj.1
    rw [Nat.toNat_digitChar_of_lt_ten hlt]
    show 48 + (c.toNat - 48) = c.toNat
    omega

theorem digitChar_of_index? {c : Char} {i : Fin 10} (h : index? c = some i) : Nat.digitChar i = c := by
  have hdigit : '0' ≤ c ∧ c ≤ '9' := by
    rw [index?, Text.digitValue?] at h
    split at h
    · assumption
    · cases h
  obtain ⟨j, hj, hchar⟩ := exists_index?_of_digit hdigit.1 hdigit.2
  cases hj.symm.trans h
  exact hchar

theorem exists_index? {c : Char} (h : Text.isAsciiDigit c = true) : ∃ i, index? c = some i := by
  rw [Text.isAsciiDigit, Bool.and_eq_true, decide_eq_true_iff, decide_eq_true_iff] at h
  obtain ⟨i, hi, -⟩ := exists_index?_of_digit h.1 h.2
  exact ⟨i, hi⟩

@[simp] theorem write_nil : write [] = [] := rfl

@[simp] theorem write_char (c : Char) (parts : List Part) : write (.char c :: parts) = c :: write parts := rfl

@[simp] theorem write_group (i : Fin 10) (parts : List Part) :
    write (.group i :: parts) = reference i ++ write parts := rfl

@[simp] theorem write_append (parts parts' : List Part) : write (parts ++ parts') = write parts ++ write parts' :=
  List.flatMap_append

@[simp] theorem write_map_char (s : List Char) : write (s.map .char) = s := by
  induction s with
  | nil => rfl
  | cons c s ih => rw [List.map_cons, write_char, ih]

theorem write_read (s : List Char) : write (read s) = s := by
  fun_induction read s with
  | case1 => rfl
  | case2 c => rfl
  | case3 c d rest index hindex ih =>
    split at hindex
    · rename_i hc
      rw [write_group, reference_eq, digitChar_of_index? hindex, ih, hc]
      rfl
    · cases hindex
  | case4 c d rest hnone ih => rw [write_char, ih]

@[simp] theorem fillIn_nil (value : Nat → Option (List Char)) : fillIn value [] = [] := rfl

@[simp] theorem fillIn_char (value : Nat → Option (List Char)) (c : Char) (parts : List Part) :
    fillIn value (.char c :: parts) = .char c :: fillIn value parts := rfl

@[simp] theorem fillIn_group (value : Nat → Option (List Char)) (i : Fin 10) (parts : List Part) :
    fillIn value (.group i :: parts) = (Part.group i).filled value ++ fillIn value parts := rfl

@[simp] theorem fillIn_append (value : Nat → Option (List Char)) (parts parts' : List Part) :
    fillIn value (parts ++ parts') = fillIn value parts ++ fillIn value parts' := List.flatMap_append

@[simp] theorem fillIn_map_char (value : Nat → Option (List Char)) (s : List Char) :
    fillIn value (s.map .char) = s.map .char := by
  induction s with
  | nil => rfl
  | cons c s ih => rw [List.map_cons, fillIn_char, ih]

theorem fillIn_none (parts : List Part) : fillIn (fun _ => none) parts = parts := by
  induction parts with
  | nil => rfl
  | cons part parts ih =>
    cases part with
    | char c => rw [fillIn_char, ih]
    | group i =>
      rw [fillIn_group, ih]
      rfl

/-- Groups that are filled in later do not touch the texts that earlier ones have put in. -/
theorem fillIn_fillIn (value value' : Nat → Option (List Char)) (parts : List Part) :
    fillIn value' (fillIn value parts) = fillIn (fun i => (value i).or (value' i)) parts := by
  induction parts with
  | nil => rfl
  | cons part parts ih =>
    cases part with
    | char c => rw [fillIn_char, fillIn_char, fillIn_char, ih]
    | group i =>
      rw [fillIn_group, fillIn_append, ih, fillIn_group]
      congr 1
      simp only [Part.filled]
      cases value i with
      | none => simp [Part.filled]
      | some text => simp

/-- The texts of groups from an index on. -/
def valuesFrom (start : Nat) (texts : List (List Char)) (i : Nat) : Option (List Char) :=
  if start ≤ i then texts[i - start]? else none

theorem valuesFrom_zero (texts : List (List Char)) : valuesFrom 0 texts = fun i => texts[i]? := by
  funext i
  simp [valuesFrom]

theorem fillIn_valuesFrom_nil (start : Nat) (parts : List Part) : fillIn (valuesFrom start []) parts = parts := by
  have hnone : valuesFrom start [] = fun _ => none := by
    funext i
    simp [valuesFrom]
  rw [hnone, fillIn_none]

theorem valuesFrom_singleton (start i : Nat) (text : List Char) :
    valuesFrom start [text] i = if i = start then some text else none := by
  rw [valuesFrom]
  split
  · rw [List.getElem?_singleton]
    congr 1
    simp only [eq_iff_iff]
    omega
  · rw [if_neg (by omega)]

theorem valuesFrom_append (start : Nat) (texts texts' : List (List Char)) (i : Nat) :
    valuesFrom start (texts ++ texts') i =
      (valuesFrom start texts i).or (valuesFrom (start + texts.length) texts' i) := by
  simp only [valuesFrom, List.getElem?_append]
  by_cases hstart : start ≤ i
  · by_cases hend : i - start < texts.length
    · simp [hstart, hend]
    · have hlater : start + texts.length ≤ i := by omega
      have hindex : i - start - texts.length = i - (start + texts.length) := by omega
      simp [hstart, hend, hlater, hindex]
  · have hlater : ¬start + texts.length ≤ i := by omega
    simp [hstart, hlater]

/-- The texts of some groups and then those of the next ones are put in as all of them at once. -/
theorem fillIn_valuesFrom_append (start : Nat) (texts texts' : List (List Char)) (parts : List Part) :
    fillIn (valuesFrom (start + texts.length) texts') (fillIn (valuesFrom start texts) parts) =
      fillIn (valuesFrom start (texts ++ texts')) parts := by
  rw [fillIn_fillIn]
  congr 1
  funext i
  exact (valuesFrom_append start texts texts' i).symm

theorem substitute_eq (texts : List (List Char)) (s : List Char) :
    substitute texts s = write (fillIn (valuesFrom 0 texts) (read s)) := by
  rw [substitute, valuesFrom_zero]

/-- No backslash stands for itself, and where a reference to a group below a bound stands before a question
mark, what follows is `harmless`. -/
def Guarded (bound : Nat) (harmless : List Part → Prop) : List Part → Prop
  | [] => True
  | .char c :: rest => c ≠ '\\' ∧ Guarded bound harmless rest
  | .group i :: rest =>
    (i < bound → ∀ tail, rest = .char '?' :: tail → harmless tail) ∧ Guarded bound harmless rest

/-- What follows a question mark has no two sides of a choice. -/
def NoSides (s : List Char) : Prop :=
  ∀ yes no, Text.splitOnce ':' s = some (yes, no) → yes = [] ∨ '\n' ∈ no

variable {bound : Nat} {harmless : List Part → Prop}

theorem head?_write_eq_question (parts : List Part) (h : (write parts).head? = some '?') :
    ∃ tail, parts = .char '?' :: tail := by
  cases parts with
  | nil => cases h
  | cons part rest =>
    cases part with
    | char c =>
      cases h
      exact ⟨rest, rfl⟩
    | group i => cases h

theorem Guarded.imp {bound' : Nat} {harmless' : List Part → Prop} (hbound : ∀ i : Fin 10, i < bound' → i < bound)
    (himp : ∀ tail, harmless tail → harmless' tail) {parts : List Part} (h : Guarded bound harmless parts) :
    Guarded bound' harmless' parts := by
  induction parts with
  | nil => trivial
  | cons part rest ih =>
    cases part with
    | char c => exact ⟨h.1, ih h.2⟩
    | group i => exact ⟨fun hi tail htail => himp tail (h.1 (hbound i hi) tail htail), ih h.2⟩

theorem Guarded.backslash_notMem {parts : List Part} (h : Guarded bound harmless parts) :
    .char '\\' ∉ parts := by
  induction parts with
  | nil => exact List.not_mem_nil
  | cons part rest ih =>
    cases part with
    | char c =>
      intro hmem
      rcases List.mem_cons.1 hmem with heq | hrest
      · cases heq
        exact h.1 rfl
      · exact ih h.2 hrest
    | group i => simpa using ih h.2

theorem Guarded.of_append {front back : List Part} (h : Guarded bound (fun _ => False) (front ++ back)) :
    Guarded bound (fun _ => False) front := by
  induction front with
  | nil => trivial
  | cons part front ih =>
    cases part with
    | char c => exact ⟨h.1, ih h.2⟩
    | group i =>
      refine ⟨fun hi tail htail => h.1 hi (tail ++ back) ?_, ih h.2⟩
      rw [htail]
      rfl

theorem RefersOnly.of_cons {c : Char} {s : List Char} (h : RefersOnly (c :: s)) : RefersOnly s :=
  fun n hn => h (n + 1) hn

/-- A text that only refers has references that stand before no question mark. -/
theorem guarded_read {s : List Char} (h : RefersOnly s) : Guarded bound harmless (read s) := by
  fun_induction read s with
  | case1 => trivial
  | case2 c =>
    refine ⟨fun hc => ?_, trivial⟩
    have hdigit := (h 0 (congrArg some hc)).1
    cases hdigit
  | case3 c d rest index hindex ih =>
    split at hindex
    · rename_i hc
      refine ⟨fun _ tail htail => ?_, ih h.of_cons.of_cons⟩
      have hquestion := (h 0 (congrArg some hc)).2
      rw [← write_read rest, htail] at hquestion
      exact absurd rfl hquestion
    · cases hindex
  | case4 c d rest hnone ih =>
    refine ⟨fun hc => ?_, ih h.of_cons⟩
    obtain ⟨i, hi⟩ := exists_index? (h 0 (congrArg some hc)).1
    rw [if_pos hc, hi] at hnone
    cases hnone

theorem guarded_append {front back : List Part} (hfront : Guarded bound (fun _ => False) front)
    (hback : Guarded bound harmless back)
    (hborder : ∀ rest tail (i : Fin 10), front = rest ++ [.group i] → i < bound → back = .char '?' :: tail →
      harmless tail) :
    Guarded bound harmless (front ++ back) := by
  induction front with
  | nil => exact hback
  | cons part front ih =>
    have hrest (hfront : Guarded bound (fun _ => False) front) : Guarded bound harmless (front ++ back) := by
      apply ih hfront
      intro rest tail i hlast
      exact hborder (part :: rest) tail i (by rw [hlast, List.cons_append])
    cases part with
    | char c => exact ⟨hfront.1, hrest hfront.2⟩
    | group i =>
      refine ⟨fun hi tail htail => ?_, hrest hfront.2⟩
      cases front with
      | nil => exact hborder [] tail i rfl hi htail
      | cons part front =>
        obtain ⟨rfl, -⟩ := List.cons.inj htail
        exact absurd rfl (hfront.1 hi front)

theorem digitChar_ne_backslash (i : Fin 10) : Nat.digitChar i ≠ '\\' := by
  revert i
  decide

theorem digitChar_injective {i j : Fin 10} (h : Nat.digitChar i = Nat.digitChar j) : i = j := by
  have hi := index?_digitChar i
  rw [h, index?_digitChar] at hi
  exact (Option.some.inj hi).symm

/-- What stands before a text begins with a reference exactly if it is that reference. -/
theorem reference_append_inj {i j : Fin 10} {s t : List Char} (h : reference i ++ s = reference j ++ t) :
    i = j ∧ s = t := by
  rw [reference_eq, reference_eq] at h
  simp only [List.cons_append, List.nil_append, List.cons.injEq, true_and] at h
  exact ⟨digitChar_injective h.1, h.2⟩

section OneGroup

variable {i : Fin 10} {matched : Bool}

theorem choose_char {c : Char} (hc : c ≠ '\\') (s : List Char) :
    choose (reference i ++ ['?']) matched (c :: s) = c :: choose (reference i ++ ['?']) matched s := by
  have hhere : choiceHere (reference i ++ ['?']) (c :: s) = none := by
    rw [choiceHere, if_neg]
    simp [reference, hc.symm]
  rw [choose, hhere]

/-- A reference stays that starts no choice. -/
theorem choose_reference {j : Fin 10} {s : List Char}
    (h : j = i → ∀ tail, s = '?' :: tail → NoSides tail) :
    choose (reference i ++ ['?']) matched (reference j ++ s) =
      reference j ++ choose (reference i ++ ['?']) matched s := by
  have hhere : choiceHere (reference i ++ ['?']) (reference j ++ s) = none := by
    rw [choiceHere]
    split
    · rename_i hprefix
      obtain ⟨tail, htail⟩ := List.isPrefixOf_iff_prefix.1 hprefix
      rw [← htail, List.drop_left]
      rw [List.append_assoc] at htail
      obtain ⟨rfl, rfl⟩ := reference_append_inj htail
      have hnone := h rfl tail rfl
      split
      · rename_i yes no hsplit
        rcases hnone yes no hsplit with hyes | hno
        · simp [hyes]
        · simp [hno]
      · rfl
    · rfl
  rw [reference_eq j, List.cons_append] at hhere ⊢
  rw [choose, hhere, List.singleton_append, choose_char (digitChar_ne_backslash j)]
  rfl

/-- Nothing is chosen where no reference to the group starts a choice. -/
theorem choose_write (hsides : ∀ tail, harmless tail → NoSides (write tail)) (hi : i < bound)
    {parts : List Part} (h : Guarded bound harmless parts) :
    choose (reference i ++ ['?']) matched (write parts) = write parts := by
  induction parts with
  | nil => rfl
  | cons part rest ih =>
    cases part with
    | char c => rw [write_char, choose_char h.1, ih h.2]
    | group j =>
      rw [write_group, choose_reference, ih h.2]
      rintro rfl tail htail
      obtain ⟨tail', rfl⟩ := head?_write_eq_question rest (by rw [htail]; rfl)
      cases htail
      exact hsides tail' (h.1 hi tail' rfl)

/-- The search for a choice goes on behind parts without question marks after references. -/
theorem choose_write_append (hi : i < bound) {parts : List Part}
    (h : Guarded bound (fun _ => False) parts) {s : List Char} (hs : s.head? ≠ some '?') :
    choose (reference i ++ ['?']) matched (write parts ++ s) =
      write parts ++ choose (reference i ++ ['?']) matched s := by
  induction parts with
  | nil => rfl
  | cons part rest ih =>
    cases part with
    | char c => rw [write_char, List.cons_append, choose_char h.1, ih h.2, List.cons_append]
    | group j =>
      rw [write_group, List.append_assoc, choose_reference, ih h.2, List.append_assoc]
      rintro rfl tail htail
      cases rest with
      | nil =>
        rw [write_nil, List.nil_append] at htail
        exact absurd (by rw [htail]; rfl) hs
      | cons part rest =>
        have hhead : (write (part :: rest)).head? = some '?' := by
          cases part with
          | char c =>
            cases htail
            rfl
          | group j => cases htail
        obtain ⟨tail', hrest⟩ := head?_write_eq_question _ hhead
        exact absurd hrest (h.1 hi tail')

theorem isPrefixOf_reference_eq_false {c : Char} (hc : c ≠ '\\') (s : List Char) :
    (reference i).isPrefixOf (c :: s) = false := by
  simp [reference, List.isPrefixOf_cons_cons, hc.symm]

/-- Every reference to the group gets its text. -/
theorem replace_write {parts : List Part} (text : List Char) (h : .char '\\' ∉ parts) :
    Text.replace (reference i) text (write parts) = write (fillIn (valuesFrom i [text]) parts) := by
  induction parts with
  | nil => rfl
  | cons part rest ih =>
    obtain ⟨hpart, hrest⟩ := List.ne_and_not_mem_of_not_mem_cons h
    cases part with
    | char c =>
      have hc : c ≠ '\\' := fun heq => hpart (by rw [heq])
      rw [write_char, Text.replace_cons _ (isPrefixOf_reference_eq_false hc _), ih hrest, fillIn_char, write_char]
    | group j =>
      rw [write_group, fillIn_group, write_append, ← ih hrest, Part.filled, valuesFrom_singleton]
      by_cases hj : j = i
      · subst hj
        have hne : reference j ≠ [] := by simp [reference]
        rw [Text.replace_append hne, if_pos rfl, write_map_char]
      · have hj' : ¬(j : Nat) = i := fun heq => hj (Fin.ext heq)
        have hchar : ¬Nat.digitChar i = Nat.digitChar j := fun heq => hj (digitChar_injective heq).symm
        have hstart : (reference i).isPrefixOf ('\\' :: Nat.digitChar j :: write rest) = false := by
          simp [reference_eq, List.isPrefixOf_cons_cons, hchar]
        rw [if_neg hj', write_group, write_nil, List.append_nil, reference_eq j, List.cons_append,
          List.singleton_append, Text.replace_cons _ hstart,
          Text.replace_cons _ (isPrefixOf_reference_eq_false (digitChar_ne_backslash j) _)]
        rfl

theorem fill_write (hsides : ∀ tail, harmless tail → NoSides (write tail)) (hi : i < bound)
    {parts : List Part} (text : List Char) (h : Guarded bound harmless parts) :
    fill (write parts) i text = write (fillIn (valuesFrom i [text]) parts) := by
  rw [fill, choose_write hsides hi h, replace_write text h.backslash_notMem]

end OneGroup

/-- A question mark that comes first when groups are filled in was there before, either first or behind
references that have vanished. -/
theorem exists_tail_of_fillIn {value : Nat → Option (List Char)}
    (hvalue : ∀ (i : Fin 10) text, value i = some text → i < bound ∧ '?' ∉ text) {parts tail : List Part}
    (h : Guarded bound harmless parts) (htail : fillIn value parts = .char '?' :: tail) :
    ∃ tail', tail = fillIn value tail' ∧ (parts = .char '?' :: tail' ∨ harmless tail') := by
  induction parts with
  | nil => cases htail
  | cons part rest ih =>
    cases part with
    | char c =>
      cases htail
      exact ⟨rest, rfl, .inl rfl⟩
    | group i =>
      rw [fillIn_group, Part.filled] at htail
      split at htail
      · rename_i text htext
        obtain ⟨hi, hquestion⟩ := hvalue i text htext
        cases text with
        | nil =>
          obtain ⟨tail', heq, hrest | hharmless⟩ := ih h.2 htail
          · exact ⟨tail', heq, .inr (h.1 hi tail' hrest)⟩
          · exact ⟨tail', heq, .inr hharmless⟩
        | cons c text =>
          cases htail
          exact absurd List.mem_cons_self hquestion
      · cases htail

/-- Texts that have neither backslashes nor question marks bring no reference before a question mark. -/
theorem guarded_fillIn {value : Nat → Option (List Char)}
    (hvalue : ∀ (i : Fin 10) text, value i = some text → i < bound ∧ '\\' ∉ text ∧ '?' ∉ text)
    (hkeep : ∀ tail, harmless tail → harmless (fillIn value tail)) {parts : List Part}
    (h : Guarded bound harmless parts) : Guarded bound harmless (fillIn value parts) := by
  have htexts (text : List Char) (htext : '\\' ∉ text) {parts : List Part} (hparts : Guarded bound harmless parts) :
      Guarded bound harmless (text.map .char ++ parts) := by
    induction text with
    | nil => exact hparts
    | cons c text ih =>
      obtain ⟨hc, htext⟩ := List.ne_and_not_mem_of_not_mem_cons htext
      exact ⟨hc.symm, ih htext⟩
  induction parts with
  | nil => trivial
  | cons part rest ih =>
    cases part with
    | char c => exact ⟨h.1, ih h.2⟩
    | group i =>
      rw [fillIn_group, Part.filled]
      split
      · rename_i text htext
        exact htexts text (hvalue i text htext).2.1 (ih h.2)
      · refine ⟨fun hi tail htail => ?_, ih h.2⟩
        have hvalue' : ∀ (i : Fin 10) text, value i = some text → i < bound ∧ '?' ∉ text :=
          fun i text htext => ⟨(hvalue i text htext).1, (hvalue i text htext).2.2⟩
        obtain ⟨tail', rfl, hrest | hharmless⟩ := exists_tail_of_fillIn hvalue' h.2 htail
        · exact hkeep tail' (h.1 hi tail' hrest)
        · exact hkeep tail' hharmless

theorem valuesFrom_eq_some {start i : Nat} {texts : List (List Char)} {text : List Char}
    (h : valuesFrom start texts i = some text) : i < start + texts.length ∧ text ∈ texts := by
  rw [valuesFrom] at h
  split at h
  · obtain ⟨hlt, -⟩ := List.getElem?_eq_some_iff.1 h
    exact ⟨by omega, List.mem_of_getElem? h⟩
  · cases h

theorem eq_of_valuesFrom_singleton {start i : Nat} {text text' : List Char}
    (h : valuesFrom start [text] i = some text') : text' = text := List.mem_singleton.1 (valuesFrom_eq_some h).2

/-- Filling in one group after the other fills in all of them at once. -/
theorem fillFrom_write {start : Nat} {texts : List (List Char)} (hbound : bound ≤ 10)
    (hsides : ∀ tail, harmless tail → NoSides (write tail))
    (hkeep : ∀ (i : Nat) (tail : List Part), ∀ text ∈ texts, harmless tail →
      harmless (fillIn (valuesFrom i [text]) tail))
    (htexts : ∀ text ∈ texts, '\\' ∉ text ∧ '?' ∉ text) (hend : start + texts.length ≤ bound)
    {parts : List Part} (h : Guarded bound harmless parts) :
    fillFrom (write parts) start texts = write (fillIn (valuesFrom start texts) parts) := by
  induction texts generalizing start parts with
  | nil => rw [fillFrom, fillIn_valuesFrom_nil]
  | cons text texts ih =>
    rw [List.length_cons] at hend
    let i : Fin 10 := ⟨start, by omega⟩
    have hi : i < bound := by
      show start < bound
      omega
    have hkeep' := fun i tail text htext => hkeep i tail text (List.mem_cons_of_mem _ htext)
    have htexts' := fun text htext => htexts text (List.mem_cons_of_mem _ htext)
    have hvalue : ∀ (j : Fin 10) text', valuesFrom i [text] j = some text' →
        j < bound ∧ '\\' ∉ text' ∧ '?' ∉ text' := by
      intro j text' htext'
      obtain ⟨hj, -⟩ := valuesFrom_eq_some htext'
      rw [List.length_singleton] at hj
      rw [eq_of_valuesFrom_singleton htext']
      exact ⟨by omega, htexts text List.mem_cons_self⟩
    have hguarded := guarded_fillIn hvalue (fun tail => hkeep i tail text List.mem_cons_self) h
    have hfill : fill (write parts) start text = write (fillIn (valuesFrom i [text]) parts) :=
      fill_write hsides hi text h
    rw [fillFrom, hfill, ih hkeep' htexts' (by omega) hguarded]
    exact congrArg write (fillIn_valuesFrom_append start [text] texts parts)

/-- A template whose backslashes all start references by one digit, none of them before a question mark, is
filled in as if all groups were filled in at once, by texts that have neither backslashes nor question marks.
References to groups that the match does not have stay. -/
theorem render_fills_in_at_once {template : String} {groups : List (Option String)}
    (htemplate : RefersOnly template.toList) (hten : groups.length ≤ 10)
    (htexts : ∀ text ∈ textsOf groups, '\\' ∉ text ∧ '?' ∉ text) :
    render template groups = String.ofList (substitute (textsOf groups) template.toList) := by
  have hlength : 0 + (textsOf groups).length ≤ 10 := by
    rw [textsOf, List.length_map, Nat.zero_add]
    exact hten
  have hguarded : Guarded 10 (fun _ => False) (read template.toList) := guarded_read htemplate
  have hfill := fillFrom_write (Nat.le_refl 10) (fun tail h => h.elim) (fun i tail text _ h => h) htexts hlength
    hguarded
  rw [write_read, ← substitute_eq] at hfill
  exact congrArg String.ofList hfill

/-- A text may bring a digit next to a reference, and a group without part in the match leaves its
neighbours side by side; the reference to a missing group stays. -/
theorem render_side_by_side :
    RefersOnly "v\\1\\0.\\2\\4".toList ∧
      (∀ text ∈ textsOf [some "12", none, some "1:"], '\\' ∉ text ∧ '?' ∉ text) ∧
      render "v\\1\\0.\\2\\4" [some "12", none, some "1:"] = "v12.1:\\4" := by
  have htemplate : RefersOnly "v\\1\\0.\\2\\4".toList := by decide
  have htexts : ∀ text ∈ textsOf [some "12", none, some "1:"], '\\' ∉ text ∧ '?' ∉ text := by decide
  refine ⟨htemplate, htexts, (render_fills_in_at_once htemplate (by decide) htexts).trans ?_⟩
  decide

end SiteTech.Template
