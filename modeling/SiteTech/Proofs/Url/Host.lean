import SiteTech.Proofs.Text.Basic
import SiteTech.Url.Reader

namespace SiteTech.Url

namespace Punycode

theorem threshold_bounds (k bias : Nat) : 1 ≤ threshold k bias ∧ threshold k bias ≤ 26 := by
  unfold threshold
  by_cases hlow : k ≤ bias
  · simp [hlow]
  · by_cases hhigh : bias + 26 ≤ k
    · simp [hlow, hhigh]
    · rw [if_neg hlow, if_neg hhigh]
      omega

theorem exists_digit_of_mem_writeGap {bias fuel q k : Nat} {c : Char} (hc : c ∈ writeGap bias fuel q k) :
    ∃ d < 36, c = digit d := by
  induction fuel generalizing q k with
  | zero => cases hc
  | succ fuel ih =>
    obtain ⟨hlow, hhigh⟩ := threshold_bounds k bias
    rw [writeGap] at hc
    split at hc
    · rw [List.mem_singleton] at hc
      exact ⟨q, by omega, hc⟩
    · rcases List.mem_cons.1 hc with rfl | hc
      · have hmod : (q - threshold k bias) % (36 - threshold k bias) < 36 - threshold k bias :=
          Nat.mod_lt _ (by omega)
        exact ⟨_, by omega, rfl⟩
      · exact ih hc

theorem mem_writePoint {n basic : Nat} {w : Writing} {label : List Nat} {c : Char}
    (hc : c ∈ (writePoint n basic w label).out) : c ∈ w.out ∨ ∃ d < 36, c = digit d := by
  induction label generalizing w with
  | nil => exact .inl hc
  | cons point label ih =>
    rw [writePoint] at hc
    split at hc
    · have hrest := ih hc
      exact hrest
    · split at hc
      · rcases ih hc with hc | hc
        · rcases List.mem_append.1 hc with hc | hc
          · exact .inr (exists_digit_of_mem_writeGap (List.mem_reverse.1 hc))
          · exact .inl hc
        · exact .inr hc
      · exact ih hc

theorem mem_writeFrom {label : List Nat} {basic fuel n : Nat} {w : Writing} {c : Char}
    (hc : c ∈ (writeFrom label basic fuel n w).out) : c ∈ w.out ∨ ∃ d < 36, c = digit d := by
  induction fuel generalizing n w with
  | zero => exact .inl hc
  | succ fuel ih =>
    rw [writeFrom] at hc
    split at hc
    · exact .inl hc
    · rcases ih hc with hc | hc
      · have hround := mem_writePoint hc
        exact hround
      · exact .inr hc

/-- The ASCII form of a label has the ASCII characters of the label, a dash and digits. -/
theorem mem_encode {label : List Char} {c : Char} (hc : c ∈ encode label) :
    (c ∈ label ∧ c.toNat < 128) ∨ c = '-' ∨ ∃ d < 36, c = digit d := by
  rcases mem_writeFrom (List.mem_reverse.1 hc) with hc | hc
  · rw [List.mem_reverse] at hc
    split at hc
    · cases hc
    · rcases List.mem_append.1 hc with hc | hc
      · obtain ⟨hmem, hascii⟩ := List.mem_filter.1 hc
        exact .inl ⟨hmem, of_decide_eq_true hascii⟩
      · exact .inr (.inl (List.mem_singleton.1 hc))
  · exact .inr (.inr hc)

private theorem not_isForbidden_digit : ∀ d < 36, isForbidden (digit d) = false := by decide

/-- Writing a label in ASCII brings in no character that may not stand in a name. -/
theorem not_isForbidden_encode {label : List Char} (h : ∀ c ∈ label, isForbidden c = false) :
    ∀ c ∈ encode label, isForbidden c = false := by
  intro c hc
  rcases mem_encode hc with ⟨hmem, -⟩ | rfl | ⟨d, hd, rfl⟩
  · exact h c hmem
  · decide
  · exact not_isForbidden_digit d hd

end Punycode

theorem exists_of_mem_mapM {α β : Type} {f : α → Option β} {l : List α} {l' : List β}
    (h : l.mapM f = some l') {b : β} (hb : b ∈ l') : ∃ a ∈ l, f a = some b := by
  induction l generalizing l' with
  | nil =>
    cases h
    cases hb
  | cons a l ih =>
    simp only [List.mapM_cons, Option.bind_eq_bind, Option.bind_eq_some_iff] at h
    obtain ⟨first, hfirst, rest, hrest, h⟩ := h
    cases h
    rcases List.mem_cons.1 hb with rfl | hb
    · exact ⟨a, List.mem_cons_self, hfirst⟩
    · obtain ⟨a', ha', heq⟩ := ih hrest hb
      exact ⟨a', List.mem_cons_of_mem _ ha', heq⟩

private theorem not_isForbidden_asciiMark {c : Char} (hc : c ∈ asciiMark) : isForbidden c = false := by
  have hmark : asciiMark.any isForbidden = false := by decide
  exact eq_false_of_ne_true (List.any_eq_false.1 hmark c hc)

theorem not_isForbidden_readLabel {label : List Char} {l : List Char × List Char}
    (h : readLabel label = some l) (hlabel : ∀ c ∈ label, isForbidden c = false) :
    ∀ c ∈ l.2, isForbidden c = false := by
  have hencoded : ∀ c ∈ asciiMark ++ Punycode.encode label, isForbidden c = false := by
    intro c hc
    rcases List.mem_append.1 hc with hc | hc
    · exact not_isForbidden_asciiMark hc
    · exact Punycode.not_isForbidden_encode hlabel c hc
  unfold readLabel at h
  split at h
  · split at h
    · cases h
    · split at h
      · cases h
      · cases h
        exact hlabel
  · split at h
    · cases h
      exact hlabel
    · split at h
      · cases h
        exact hencoded
      · cases h

/-- The ASCII form of a name has the characters of its labels, which are cut from the normal form of what the
characters are mapped to. -/
theorem mem_domainToAscii {bytes : List UInt8} {name : List Char} {c : Char}
    (h : domainToAscii bytes = some name) (hc : c ∈ name) :
    c = '.' ∨ ∃ mapped label l,
      mapChars ((Text.decode bytes).map (·.getD (Char.ofNat 0xfffd))) = some mapped ∧
        (∀ d ∈ Text.normalize mapped, isForbidden d = false) ∧ label ⊆ Text.normalize mapped ∧
        readLabel label = some l ∧ c ∈ l.2 := by
  simp only [domainToAscii, Option.bind_eq_bind, Option.bind_eq_some_iff] at h
  obtain ⟨mapped, hmapped, h⟩ := h
  split at h
  · cases h
  rename_i hclean
  obtain ⟨labels, hlabels, h⟩ := Option.bind_eq_some_iff.1 h
  split at h
  · cases h
  cases h
  rcases Text.mem_of_mem_join hc with hc | ⟨text, htext, hc⟩
  · exact .inl (List.mem_singleton.1 hc)
  · obtain ⟨l, hl, rfl⟩ := List.mem_map.1 htext
    obtain ⟨label, hlabel, hread⟩ := exists_of_mem_mapM hlabels hl
    simp only [List.any_eq_true, not_exists, not_and, Bool.not_eq_true] at hclean
    exact .inr ⟨mapped, label, l, hmapped, hclean, fun d hd => Text.mem_of_mem_splitOn hlabel hd, hread, hc⟩

/-- No character that may not stand in a name is in the ASCII form of a name. -/
theorem not_isForbidden_domainToAscii {bytes : List UInt8} {name : List Char}
    (h : domainToAscii bytes = some name) : ∀ c ∈ name, isForbidden c = false := by
  intro c hc
  rcases mem_domainToAscii h hc with rfl | ⟨mapped, label, l, -, hclean, hlabel, hread, hc⟩
  · decide
  · exact not_isForbidden_readLabel hread (fun d hd => hclean d (hlabel hd)) c hc

/-- Whether a character can stand in the authority of a web address without ending it, without being
dropped and without telling of a user. -/
def isAuthorityChar (c : Char) : Bool := 0x20 < c.toNat && !(['/', '\\', '?', '#', '@'].contains c)

/-- A text has the form of a host in an authority: it is not empty, nothing in it ends the authority,
and a colon after it is not taken for a part of it. -/
structure IsHostText (h : List Char) : Prop where
  nonempty : h ≠ []
  chars : ∀ c ∈ h, isAuthorityChar c = true
  cut : ∀ rest, splitHost false (h ++ rest) =
    (h ++ (splitHost false rest).1, (splitHost false rest).2)

/-- Splitting a host from what follows cuts a text in two. -/
theorem append_splitHost (inside : Bool) (s : List Char) :
    (splitHost inside s).1 ++ (splitHost inside s).2 = s := by
  induction s generalizing inside with
  | nil => rfl
  | cons c s ih =>
    rw [splitHost]
    split
    · rfl
    · exact congrArg (c :: ·) (ih _)

theorem splitHost_append {inside : Bool} {h : List Char}
    (hcolon : inside = false → ':' ∉ h) (hopen : inside = false → '[' ∉ h) (hclose : ']' ∉ h)
    (rest : List Char) :
    splitHost inside (h ++ rest) = (h ++ (splitHost inside rest).1, (splitHost inside rest).2) := by
  induction h with
  | nil => rfl
  | cons c h ih =>
    have hstep : ¬(c = ':' ∧ inside = false) := by
      rintro ⟨rfl, hinside⟩
      exact hcolon hinside List.mem_cons_self
    have hclosed : c ≠ ']' := fun hc => hclose (hc ▸ List.mem_cons_self)
    have hnext : (if c = '[' then true else if c = ']' then false else inside) = inside := by
      rw [if_neg hclosed]
      split
      · cases inside with
        | true => rfl
        | false => exact absurd (‹c = '['› ▸ List.mem_cons_self) (hopen rfl)
      · rfl
    rw [List.cons_append, splitHost, if_neg hstep, hnext,
      ih (fun hi hmem => hcolon hi (List.mem_cons_of_mem _ hmem))
        (fun hi hmem => hopen hi (List.mem_cons_of_mem _ hmem))
        (fun hmem => hclose (List.mem_cons_of_mem _ hmem))]
    rfl

/-- A text without colons and brackets has the form of a host if its characters may stand there. -/
theorem isHostText_of_plain {h : List Char} (hne : h ≠ [])
    (hchars : ∀ c ∈ h, isAuthorityChar c = true) (hcolon : ':' ∉ h) (hopen : '[' ∉ h)
    (hclose : ']' ∉ h) : IsHostText h :=
  ⟨hne, hchars, splitHost_append (fun _ => hcolon) (fun _ => hopen) hclose⟩

/-- A text in brackets has the form of a host if its characters may stand there. -/
theorem isHostText_of_bracketed {body : List Char} (hchars : ∀ c ∈ body, isAuthorityChar c = true)
    (hclose : ']' ∉ body) : IsHostText ('[' :: body ++ [']']) where
  nonempty := List.cons_ne_nil _ _
  chars c hc := by
    simp only [List.cons_append, List.mem_cons, List.mem_append, List.not_mem_nil, or_false] at hc
    rcases hc with rfl | hc | rfl
    · decide
    · exact hchars c hc
    · decide
  cut rest := by
    have hinside : splitHost true (body ++ ']' :: rest) =
        (body ++ (splitHost true (']' :: rest)).1, (splitHost true (']' :: rest)).2) :=
      splitHost_append (by simp) (by simp) hclose _
    simp [splitHost, hinside]

private theorem isAuthorityChar_of_not_isForbidden {c : Char} (h : isForbidden c = false) :
    isAuthorityChar c = true := by
  simp only [isForbidden, Bool.or_eq_false_iff, decide_eq_false_iff_not, List.contains_eq_mem,
    List.mem_cons, not_or] at h
  simp only [isAuthorityChar, Bool.and_eq_true, decide_eq_true_eq, List.contains_eq_mem,
    Bool.not_eq_true', decide_eq_false_iff_not, List.mem_cons, not_or]
  exact ⟨by omega, by simp [h]⟩

theorem isHostText_of_domainToAscii {bytes : List UInt8} {name : List Char}
    (h : domainToAscii bytes = some name) (hne : name ≠ []) : IsHostText name := by
  have hallowed := not_isForbidden_domainToAscii h
  refine isHostText_of_plain hne (fun c hc => isAuthorityChar_of_not_isForbidden (hallowed c hc))
    (fun hc => ?_) (fun hc => ?_) (fun hc => ?_)
  · exact absurd (hallowed _ hc) (by decide)
  · exact absurd (hallowed _ hc) (by decide)
  · exact absurd (hallowed _ hc) (by decide)

private theorem digitChar_plain :
    ∀ d < 16, isAuthorityChar d.digitChar = true ∧ d.digitChar ≠ ':' ∧ d.digitChar ≠ '[' ∧
      d.digitChar ≠ ']' := by
  decide

theorem isAuthorityChar_digitChar (d : Nat) (hd : d < 16) : isAuthorityChar d.digitChar = true :=
  (digitChar_plain d hd).1

private theorem join_ne_nil {sep piece : List Char} {pieces : List (List Char)} (hpiece : piece ≠ []) :
    Text.join sep (piece :: pieces) ≠ [] := by
  cases pieces with
  | nil => exact hpiece
  | cons second pieces => simp [Text.join, hpiece]

theorem isHostText_showIpv4 (a : Nat) : IsHostText (showIpv4 a) := by
  have hchar : ∀ c ∈ showIpv4 a, isAuthorityChar c = true ∧ c ≠ ':' ∧ c ≠ '[' ∧ c ≠ ']' := by
    intro c hc
    rcases Text.eq_or_exists_digitChar_of_mem_join (by decide : 1 < 10) hc with rfl | ⟨d, hd, rfl⟩
    · decide
    · exact digitChar_plain d (by omega)
  exact isHostText_of_plain (join_ne_nil Nat.toDigits_ne_nil) (fun c hc => (hchar c hc).1)
    (fun hc => (hchar _ hc).2.1 rfl) (fun hc => (hchar _ hc).2.2.1 rfl)
    (fun hc => (hchar _ hc).2.2.2 rfl)

/-- An address of eight pieces is written with digits and colons. -/
theorem eq_or_exists_digitChar_of_mem_showIpv6 {pieces : List Nat} {c : Char} (hc : c ∈ showIpv6 pieces) :
    c = ':' ∨ ∃ d < 16, c = d.digitChar := by
  have hjoined {l : List Nat} (hc : c ∈ Text.join [':'] (l.map (Nat.toDigits 16))) :
      c = ':' ∨ ∃ d < 16, c = d.digitChar :=
    Text.eq_or_exists_digitChar_of_mem_join (by decide) hc
  unfold showIpv6 at hc
  split at hc
  · exact hjoined hc
  · rcases List.mem_append.1 hc with hc | hc
    · rcases List.mem_append.1 hc with hc | hc
      · exact hjoined hc
      · exact .inl (by simpa using hc)
    · exact hjoined hc

theorem isHostText_showIpv6 (pieces : List Nat) : IsHostText (Host.ipv6 pieces).text := by
  have hchar : ∀ c ∈ showIpv6 pieces, isAuthorityChar c = true ∧ c ≠ ']' := by
    intro c hc
    rcases eq_or_exists_digitChar_of_mem_showIpv6 hc with rfl | ⟨d, hd, rfl⟩
    · decide
    · obtain ⟨hchar, -, -, hclose⟩ := digitChar_plain d hd
      exact ⟨hchar, hclose⟩
  exact isHostText_of_bracketed (fun c hc => (hchar c hc).1) fun hc => (hchar _ hc).2 rfl

theorem isHostText_of_readBracketed {s : List Char} {h : Host} (hread : readBracketed s = .ok h) :
    IsHostText h.text := by
  unfold readBracketed at hread
  split at hread
  · split at hread
    · cases hread
      exact isHostText_showIpv6 _
    · cases hread
  · cases hread

/-- The text of a host of a web address has the form of a host. -/
theorem isHostText_of_readHost {s : List Char} {h : Host} (hread : readHost s = .ok h) :
    IsHostText h.text := by
  unfold readHost at hread
  split at hread
  · exact isHostText_of_readBracketed hread
  · split at hread
    · cases hread
    · cases hread
    · rename_i hempty hname
      split at hread
      · split at hread
        · cases hread
          exact isHostText_showIpv4 _
        · cases hread
      · cases hread
        exact isHostText_of_domainToAscii hname hempty

end SiteTech.Url
