import SiteTech.Proofs.Crawl.Admission
import Mathlib.Computability.Language

namespace SiteTech.Address

/-- One text. -/
def literal (s : String) : Language Char := {s.toList}

/-- One character that passes a test. -/
def charOf (p : Char → Bool) : Language Char := {s | ∃ c, p c = true ∧ s = [c]}

/-- Something or nothing. -/
def optional (l : Language Char) : Language Char := 1 + l

/-- The same once or more times. -/
def plus (l : Language Char) : Language Char := l * KStar.kstar l

/-- The pattern `(?:http(s)?://)?`. -/
def schemePattern : Language Char := optional (literal "http" * optional (literal "s") * literal "://")

/-- The pattern `(?:\.[\w.-]+)+`. -/
def labelsPattern : Language Char := plus (literal "." * plus (charOf isHostChar))

/-- The pattern of an address behind its scheme: a first label, further ones, and more characters. -/
def hostPattern : Language Char := plus (charOf isHostChar) * labelsPattern * plus (charOf isRestChar)

/-- The pattern of addresses. -/
def pattern : Language Char := schemePattern * hostPattern

theorem mem_plus_of_mem {l : Language Char} {s : List Char} (h : s ∈ l) : s ∈ plus l :=
  Language.mem_mul.2 ⟨s, h, [], Language.nil_mem_kstar l, List.append_nil s⟩

theorem forall_of_mem_plus {l : Language Char} {p : Char → Bool} (h : ∀ s ∈ l, ∀ c ∈ s, p c = true)
    {s : List Char} (hs : s ∈ plus l) : ∀ c ∈ s, p c = true := by
  obtain ⟨first, hfirst, rest, hrest, rfl⟩ := Language.mem_mul.1 hs
  obtain ⟨pieces, rfl, hpieces⟩ := Language.mem_kstar.1 hrest
  refine List.forall_mem_append.2 ⟨h first hfirst, fun c hc => ?_⟩
  obtain ⟨piece, hpiece, hc⟩ := List.mem_flatten.1 hc
  exact h piece (hpieces piece hpiece) c hc

/-- A repeated class has the texts of its characters that are not empty. -/
theorem mem_plus_charOf_iff {p : Char → Bool} {s : List Char} :
    s ∈ plus (charOf p) ↔ s ≠ [] ∧ ∀ c ∈ s, p c = true := by
  constructor
  · intro hs
    refine ⟨?_, forall_of_mem_plus ?_ hs⟩
    · obtain ⟨_, ⟨c, -, rfl⟩, rest, -, rfl⟩ := Language.mem_mul.1 hs
      exact List.cons_ne_nil c rest
    · rintro _ ⟨c, hc, rfl⟩
      exact List.forall_mem_singleton.2 hc
  · rintro ⟨hne, hs⟩
    obtain ⟨c, rest, rfl⟩ := List.exists_cons_of_ne_nil hne
    rw [List.forall_mem_cons] at hs
    have hpieces : ∀ piece ∈ rest.map fun d => [d], piece ∈ charOf p := by
      intro piece hpiece
      obtain ⟨d, hd, rfl⟩ := List.mem_map.1 hpiece
      exact ⟨d, hs.2 d hd, rfl⟩
    have hrest := Language.join_mem_kstar hpieces
    rw [← List.flatMap_def, List.flatMap_singleton'] at hrest
    exact Language.mem_mul.2 ⟨[c], ⟨c, hs.1, rfl⟩, rest, hrest, rfl⟩

/-- The labels behind the first one begin with a dot and a character of hosts, and have no other characters than
those of hosts. -/
theorem exists_of_mem_labelsPattern {s : List Char} (hs : s ∈ labelsPattern) :
    ∃ c rest, s = '.' :: c :: rest ∧ ∀ d ∈ s, isHostChar d = true := by
  have hchars : ∀ t ∈ literal "." * plus (charOf isHostChar), ∀ c ∈ t, isHostChar c = true := by
    intro t ht
    obtain ⟨_, rfl, label, hlabel, rfl⟩ := Language.mem_mul.1 ht
    exact List.forall_mem_cons.2 ⟨rfl, (mem_plus_charOf_iff.1 hlabel).2⟩
  obtain ⟨t, ht, more, -, rfl⟩ := Language.mem_mul.1 hs
  obtain ⟨_, rfl, label, hlabel, rfl⟩ := Language.mem_mul.1 ht
  obtain ⟨c, label, rfl⟩ := List.exists_cons_of_ne_nil (mem_plus_charOf_iff.1 hlabel).1
  exact ⟨c, label ++ more, rfl, forall_of_mem_plus hchars hs⟩

theorem mem_labelsPattern {c : Char} (hc : isHostChar c = true) : ['.', c] ∈ labelsPattern :=
  mem_plus_of_mem (Language.mem_mul.2
    ⟨['.'], rfl, [c], mem_plus_charOf_iff.2 ⟨List.cons_ne_nil _ _, List.forall_mem_singleton.2 hc⟩, rfl⟩)

/-- The flags find whether a text can be cut up by the pattern. -/
theorem accepts_iff_mem_hostPattern {s : List Char} : accepts s = true ↔ s ∈ hostPattern := by
  rw [accepts_iff]
  constructor
  · rintro ⟨hchars, i, ⟨front, c, rest, rfl, hlength, hne, hfront, hc⟩, hlong⟩
    have hrest : rest ≠ [] := by
      rintro rfl
      simp only [List.length_append, List.length_cons, List.length_nil] at hlong
      omega
    have hrestChars : ∀ d ∈ rest, isRestChar d = true := fun d hd => hchars d (by simp [hd])
    exact Language.mem_mul.2 ⟨front ++ ['.', c], Language.mem_mul.2 ⟨front, mem_plus_charOf_iff.2 ⟨hne, hfront⟩,
      ['.', c], mem_labelsPattern hc, rfl⟩, rest, mem_plus_charOf_iff.2 ⟨hrest, hrestChars⟩, by simp⟩
  · intro hs
    obtain ⟨_, hhost, rest, hrest, rfl⟩ := Language.mem_mul.1 hs
    obtain ⟨first, hfirst, labels, hlabels, rfl⟩ := Language.mem_mul.1 hhost
    obtain ⟨hne, hfirstChars⟩ := mem_plus_charOf_iff.1 hfirst
    obtain ⟨hrestNe, hrestChars⟩ := mem_plus_charOf_iff.1 hrest
    obtain ⟨c, more, rfl, hlabelChars⟩ := exists_of_mem_labelsPattern hlabels
    refine ⟨?_, first.length, ⟨first, c, more ++ rest, by simp, rfl, hne, hfirstChars, hlabelChars c (by simp)⟩, ?_⟩
    · rw [List.forall_mem_append, List.forall_mem_append]
      exact ⟨⟨fun d hd => isRestChar_of_isHostChar (hfirstChars d hd),
        fun d hd => isRestChar_of_isHostChar (hlabelChars d hd)⟩, hrestChars⟩
    · have hlength := List.length_pos_iff.2 hrestNe
      simp only [List.length_append, List.length_cons]
      omega

/-- A scheme in front is no label: there is no dot before its colon. -/
theorem accepts_append_eq_false {scheme : List Char} (hweb : Url.IsWebScheme scheme) (s : List Char) :
    accepts (scheme ++ ':' :: s) = false := by
  rw [Bool.eq_false_iff, ne_eq, accepts_iff]
  rintro ⟨-, i, hdot, -⟩
  obtain ⟨front, c, rest, heq, -⟩ := hdot.of_append (t := ':' :: s) (by rintro d ⟨⟩; rfl)
  have hmem : '.' ∈ scheme := heq ▸ List.mem_append_right _ List.mem_cons_self
  rcases hweb with rfl | rfl
  · exact absurd hmem (by decide)
  · exact absurd hmem (by decide)

theorem mem_schemePattern_iff {s : List Char} :
    s ∈ schemePattern ↔ s = [] ∨ ∃ scheme, Url.IsWebScheme scheme ∧ s = scheme ++ "://".toList := by
  have hsecure (t : List Char) : t ∈ optional (literal "s") ↔ t = [] ∨ t = ['s'] := Iff.rfl
  simp only [schemePattern, optional, Language.mem_add, Language.mem_one, Language.mem_mul]
  refine or_congr_right ⟨?_, ?_⟩
  · rintro ⟨_, ⟨_, rfl, t, ht, rfl⟩, _, rfl, rfl⟩
    rcases (hsecure t).1 ht with rfl | rfl
    · exact ⟨_, .inl rfl, rfl⟩
    · exact ⟨_, .inr rfl, rfl⟩
  · rintro ⟨scheme, rfl | rfl, rfl⟩
    · exact ⟨_, ⟨_, rfl, [], .inl rfl, rfl⟩, _, rfl, rfl⟩
    · exact ⟨_, ⟨_, rfl, ['s'], .inr rfl, rfl⟩, _, rfl, rfl⟩

/-- A text is an address by the pattern exactly if it is one behind the scheme that it has. -/
theorem mem_pattern_iff {s : List Char} : s ∈ pattern ↔ dropScheme s ∈ hostPattern := by
  rw [pattern, Language.mem_mul]
  constructor
  · rintro ⟨scheme, hscheme, rest, hrest, rfl⟩
    rcases mem_schemePattern_iff.1 hscheme with rfl | ⟨scheme, hweb, rfl⟩
    · rcases dropScheme_cases rest with ⟨scheme, hweb, hwritten⟩ | hnone
      · rw [hwritten, ← accepts_iff_mem_hostPattern, accepts_append_eq_false hweb] at hrest
        cases hrest
      · rwa [List.nil_append, hnone]
    · have hdrop := dropScheme_append hweb rest
      simpa [hdrop] using hrest
  · intro hs
    rcases dropScheme_cases s with ⟨scheme, hweb, hwritten⟩ | hnone
    · exact ⟨_, mem_schemePattern_iff.2 (.inr ⟨scheme, hweb, rfl⟩), _, hs, by simpa using hwritten.symm⟩
    · exact ⟨[], mem_schemePattern_iff.2 (.inl rfl), s, hnone ▸ hs, rfl⟩

theorem isValid_iff_mem_pattern {address : String} : isValid address = true ↔ address.toList ∈ pattern := by
  rw [mem_pattern_iff, ← accepts_iff_mem_hostPattern, isValid]

/-- A text has characters of addresses only, and an index that is not the first with a dot: before it and right
after it there are characters of hosts, and there is one more character at least. -/
def InGrammar (s : List Char) : Prop :=
  (∀ c ∈ s, isRestChar c = true) ∧
    ∃ i, 1 ≤ i ∧ s[i]? = some '.' ∧ (∀ c ∈ s.take i, isHostChar c = true) ∧
      (∃ c, s[i + 1]? = some c ∧ isHostChar c = true) ∧ i + 3 ≤ s.length

theorem dotAt_iff_getElem? {s : List Char} {i : Nat} :
    DotAt s i ↔ 1 ≤ i ∧ s[i]? = some '.' ∧ (∀ c ∈ s.take i, isHostChar c = true) ∧
      ∃ c, s[i + 1]? = some c ∧ isHostChar c = true := by
  constructor
  · rintro ⟨front, c, rest, rfl, rfl, hne, hfront, hc⟩
    exact ⟨List.length_pos_iff.2 hne, by simp, by simpa using hfront, c, by simp, hc⟩
  · rintro ⟨hpos, hdot, hfront, c, hget, hc⟩
    obtain ⟨hi, hdot⟩ := List.getElem?_eq_some_iff.1 hdot
    obtain ⟨hi', hget⟩ := List.getElem?_eq_some_iff.1 hget
    refine ⟨s.take i, c, s.drop (i + 2), ?_, List.length_take_of_le hi.le, ?_, hfront, hc⟩
    · rw [← hdot, ← hget, ← List.drop_eq_getElem_cons hi', ← List.drop_eq_getElem_cons hi, List.take_append_drop]
    · exact List.ne_nil_of_length_pos (by rwa [List.length_take_of_le hi.le])

theorem accepts_iff_inGrammar {s : List Char} : accepts s = true ↔ InGrammar s := by
  simp only [accepts_iff, InGrammar, dotAt_iff_getElem?, and_assoc]

/-- The texts that pass for addresses are those of the pattern, and those that keep to the grammar behind the
scheme that they may have. -/
theorem isValid_iff_grammar (address : String) :
    (isValid address = true ↔ address.toList ∈ pattern) ∧
      (isValid address = true ↔ InGrammar (dropScheme address.toList)) :=
  ⟨isValid_iff_mem_pattern, accepts_iff_inGrammar⟩

example : isValid "a.b" = false ∧ isValid "a.bc" = true := by decide

end SiteTech.Address
