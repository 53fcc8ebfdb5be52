import SiteTech.Proofs.Text.Pieces
import SiteTech.Signature.Pattern

namespace SiteTech.Pattern

/-- Reads a text from the left: a backslash in front of a slash or of another backslash stands for nothing, and the
character after it for itself. -/
def readEscapes : List Char → List Char
  | [] => []
  | [c] => [c]
  | c :: d :: rest =>
    if c = '\\' ∧ (d = '/' ∨ d = '\\') then d :: readEscapes rest
    else c :: readEscapes (d :: rest)

/-- How a text may be written with escapes: its backslashes are doubled, and a backslash may stand in front of any of
its slashes. -/
inductive Writes : List Char → List Char → Prop
  | nil : Writes [] []
  | backslash {written text} : Writes written text → Writes ('\\' :: '\\' :: written) ('\\' :: text)
  | slash {written text} : Writes written text → Writes ('\\' :: '/' :: written) ('/' :: text)
  | plain {c written text} : c ≠ '\\' → Writes written text → Writes (c :: written) (c :: text)

section Replace

variable {a b c : Char} {new rest : List Char}

private theorem replace_pair (a b : Char) (new rest : List Char) :
    Text.replace [a, b] new (a :: b :: rest) = new ++ Text.replace [a, b] new rest :=
  Text.replace_append (List.cons_ne_nil _ _) new rest

private theorem replace_no_pair (h : c = a → rest.head? ≠ some b) :
    Text.replace [a, b] new (c :: rest) = c :: Text.replace [a, b] new rest := by
  refine Text.replace_cons new ?_
  cases rest with
  | nil => simp [List.isPrefixOf]
  | cons d rest =>
    have hne : c = a → d ≠ b := by simpa using h
    by_cases hc : c = a
    · simp [List.isPrefixOf, (hne hc).symm]
    · simp [List.isPrefixOf, Ne.symm hc]

end Replace

theorem unescape_slash (rest : List Char) : unescape ('\\' :: '/' :: rest) = '/' :: unescape rest := by
  rw [unescape, replace_pair, List.singleton_append, replace_no_pair (by simp), unescape]

/-- A character that no escape begins with stays. -/
theorem unescape_cons {c : Char} {rest : List Char}
    (h : c = '\\' → rest.head? ≠ some '/' ∧ rest.head? ≠ some '\\') :
    unescape (c :: rest) = c :: unescape rest := by
  rw [unescape, replace_no_pair fun hc => (h hc).1, replace_no_pair, unescape]
  intro hc
  -- The first pass leaves the next character in its place.
  cases rest with
  | nil => exact (Option.some_ne_none _).symm
  | cons d rest =>
    have hd : d ≠ '\\' := by simpa using (h hc).2
    rw [replace_no_pair fun heq => absurd heq hd]
    simpa using hd

/-- A pair of backslashes is read as one, whether or not a slash comes after it. -/
theorem unescape_backslash (rest : List Char) : unescape ('\\' :: '\\' :: rest) = '\\' :: unescape rest := by
  rw [unescape, replace_no_pair (by simp)]
  by_cases hslash : rest.head? = some '/'
  · -- The second backslash goes with the slash in the first pass, and none is left for a pair.
    obtain ⟨rest, rfl⟩ := List.head?_eq_some_iff.1 hslash
    rw [replace_pair, List.singleton_append, replace_no_pair (by simp), replace_no_pair (by simp),
      unescape_cons (by simp), unescape]
  · rw [replace_no_pair fun _ => hslash, replace_pair, List.singleton_append, unescape]

/-- Undoing the escapes in two passes is reading them from the left. The first pass takes a backslash
away from the end of a run of them, where the pairs of the run do not feel it. -/
theorem unescape_eq_readEscapes (s : List Char) : unescape s = readEscapes s := by
  fun_induction readEscapes s with
  | case1 => rfl
  | case2 c =>
    have hcons : unescape [c] = c :: unescape [] := unescape_cons (by simp)
    exact hcons
  | case3 c d rest hescape ih =>
    obtain ⟨rfl, rfl | rfl⟩ := hescape
    · rw [unescape_slash, ih]
    · rw [unescape_backslash, ih]
  | case4 c d rest hplain ih =>
    rw [unescape_cons (by simpa [not_or] using hplain), ih]

/-- Reading from the left gives back what was written. -/
theorem Writes.readEscapes_eq {written text : List Char} (h : Writes written text) : readEscapes written = text := by
  induction h with
  | nil => rfl
  | backslash _ ih => rw [readEscapes, if_pos (by decide), ih]
  | slash _ ih => rw [readEscapes, if_pos (by decide), ih]
  | @plain c written text hc _ ih =>
    cases written with
    | nil => rw [← ih]; rfl
    | cons d written => rw [readEscapes, if_neg fun hescape => hc hescape.1, ih]

/-- Undoing the escapes of slashes in a whole text, and then those of backslashes, is the same as reading all of them
once from the left, and gives back every text from each of its written forms. -/
theorem unescape_reads_once :
    (∀ s, unescape s = readEscapes s) ∧ ∀ written text, Writes written text → unescape written = text :=
  ⟨unescape_eq_readEscapes, fun written _ h => (unescape_eq_readEscapes written).trans h.readEscapes_eq⟩

/-- A backslash with two slashes after it, of which only the first is written with an escape. -/
theorem unescape_slashes_behind_backslash :
    Writes ['\\', '\\', '\\', '/', '/'] ['\\', '/', '/'] ∧
      unescape ['\\', '\\', '\\', '/', '/'] = ['\\', '/', '/'] := by
  have hwrites : Writes ['\\', '\\', '\\', '/', '/'] ['\\', '/', '/'] :=
    .backslash (.slash (.plain (by decide) .nil))
  exact ⟨hwrites, unescape_reads_once.2 _ _ hwrites⟩

end SiteTech.Pattern
