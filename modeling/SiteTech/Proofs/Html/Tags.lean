import SiteTech.Html.TokenReader
import SiteTech.Proofs.Text.Pieces
import Mathlib.Data.List.Infix

namespace SiteTech.Html

/-- A text with a line feed for every end of a line. -/
def unixLines : List Char → List Char
  | [] => []
  | '\r' :: '\n' :: s => '\n' :: unixLines s
  | '\r' :: s => '\n' :: unixLines s
  | c :: s => c :: unixLines s

theorem unixLines_cons {c : Char} (hc : c ≠ '\r') (s : List Char) : unixLines (c :: s) = c :: unixLines s :=
  unixLines.eq_4 c s (fun _ heq _ => hc heq) hc

theorem unixLines_return {s : List Char} (hs : s.head? ≠ some '\n') :
    unixLines ('\r' :: s) = '\n' :: unixLines s :=
  unixLines.eq_3 s fun t heq => hs (by rw [heq, List.head?_cons])

/-- Writing line feeds first for pairs and then for single carriage returns is one reading of the text. -/
theorem replace_replace_eq_unixLines (s : List Char) :
    Text.replace ['\r'] ['\n'] (Text.replace ['\r', '\n'] ['\n'] s) = unixLines s := by
  have hpair (s : List Char) : Text.replace ['\r', '\n'] ['\n'] ('\r' :: '\n' :: s) =
      '\n' :: Text.replace ['\r', '\n'] ['\n'] s := Text.replace_append (by simp) _ _
  have hreturn (s : List Char) : Text.replace ['\r'] ['\n'] ('\r' :: s) = '\n' :: Text.replace ['\r'] ['\n'] s :=
    Text.replace_append (by simp) _ _
  have hother {c : Char} (hc : c ≠ '\r') (s : List Char) :
      Text.replace ['\r'] ['\n'] (c :: s) = c :: Text.replace ['\r'] ['\n'] s :=
    Text.replace_cons _ (by simp [List.isPrefixOf, hc.symm])
  fun_induction unixLines s with
  | case1 => rfl
  | case2 s ih => rw [hpair, hother (by decide), ih]
  | case3 s hnot ih =>
    have halone : ['\r', '\n'].isPrefixOf ('\r' :: s) = false := by
      cases s with
      | nil => rfl
      | cons c s =>
        have hc : c ≠ '\n' := fun heq => hnot s (heq ▸ rfl)
        simp [List.isPrefixOf, hc.symm]
    rw [Text.replace_cons _ halone, hreturn, ih]
  | case4 c s _ hc ih =>
    rw [Text.replace_cons _ (by simp [List.isPrefixOf, Ne.symm hc]), hother hc, ih]

/-- No end of a line goes over a closing angle bracket. -/
theorem exists_unixLines_append (s : List Char) :
    ∃ front, ∀ rest, unixLines (s ++ '>' :: rest) = front ++ '>' :: unixLines rest := by
  fun_induction unixLines s with
  | case1 => exact ⟨[], fun rest => rfl⟩
  | case2 s ih =>
    obtain ⟨front, hfront⟩ := ih
    exact ⟨'\n' :: front, fun rest => congrArg ('\n' :: ·) (hfront rest)⟩
  | case3 s hnot ih =>
    obtain ⟨front, hfront⟩ := ih
    have hhead (rest : List Char) : (s ++ '>' :: rest).head? ≠ some '\n' := by
      cases s with
      | nil => simp
      | cons c s =>
        rintro heq
        cases heq
        exact hnot s rfl
    exact ⟨'\n' :: front, fun rest =>
      (unixLines_return (hhead rest)).trans (congrArg ('\n' :: ·) (hfront rest))⟩
  | case4 c s _ hc ih =>
    obtain ⟨front, hfront⟩ := ih
    exact ⟨c :: front, fun rest => (unixLines_cons hc _).trans (congrArg (c :: ·) (hfront rest))⟩

/-- What stands at the front of a text with new ends of lines, without such an end, stood there before. -/
theorem prefix_of_prefix_unixLines {p s : List Char} (hp : '\n' ∉ p) (h : p <+: unixLines s) : p <+: s := by
  induction p generalizing s with
  | nil => exact List.nil_prefix
  | cons d p ih =>
    obtain ⟨hd, hp⟩ := List.ne_and_not_mem_of_not_mem_cons hp
    fun_cases unixLines s with
    | case1 => exact h
    | case2 s => exact absurd (List.cons_prefix_cons.1 h).1.symm hd
    | case3 s hnot =>
      rw [unixLines.eq_3 s hnot] at h
      exact absurd (List.cons_prefix_cons.1 h).1.symm hd
    | case4 c s _ hc =>
      rw [unixLines_cons hc] at h
      obtain ⟨rfl, htail⟩ := List.cons_prefix_cons.1 h
      exact List.cons_prefix_cons.2 ⟨rfl, ih hp htail⟩

theorem infix_of_infix_unixLines {p s : List Char} (hp : '\n' ∉ p) (h : p <:+: unixLines s) : p <:+: s := by
  have hfront {s : List Char} (h : p <+: unixLines s) : p <:+: s := (prefix_of_prefix_unixLines hp h).isInfix
  fun_induction unixLines s with
  | case1 => exact h
  | case2 s ih =>
    rcases List.infix_cons_iff.1 h with h | h
    · exact hfront h
    · exact (ih h).trans (List.suffix_append ['\r', '\n'] s).isInfix
  | case3 s hnot ih =>
    rcases List.infix_cons_iff.1 h with h | h
    · exact hfront (unixLines.eq_3 s hnot ▸ h)
    · exact List.infix_cons (ih h)
  | case4 c s _ hc ih =>
    rcases List.infix_cons_iff.1 h with h | h
    · exact hfront (unixLines_cons hc s ▸ h)
    · exact List.infix_cons (ih h)

theorem mem_of_mem_unixLines {c : Char} {s : List Char} (hc : c ≠ '\n') (h : c ∈ unixLines s) : c ∈ s := by
  obtain ⟨front, back, hs⟩ := List.append_of_mem h
  have hinfix : [c] <:+: unixLines s := ⟨front, back, by simp [hs]⟩
  exact (infix_of_infix_unixLines (by simpa using hc.symm) hinfix).subset List.mem_cons_self

theorem afterBracket_cons {c : Char} (hc : c ≠ '>') (s : List Char) : afterBracket (c :: s) = afterBracket s := by
  rw [afterBracket, List.dropWhile_cons_of_pos (by simpa using hc), afterBracket]

theorem afterBracket_bracket (s : List Char) : afterBracket ('>' :: s) = s := rfl

/-- The next closing angle bracket is not among characters that are left out in front. -/
theorem afterBracket_append {s : List Char} (h : '>' ∉ s) (t : List Char) :
    afterBracket (s ++ t) = afterBracket t := by
  induction s with
  | nil => rfl
  | cons c s ih =>
    obtain ⟨hc, hs⟩ := List.ne_and_not_mem_of_not_mem_cons h
    rw [List.cons_append, afterBracket_cons (Ne.symm hc), ih hs]

theorem afterBracket_append_of_mem {s : List Char} (h : '>' ∈ s) (rest : List Char) :
    afterBracket (s ++ rest) = afterBracket s ++ rest := by
  obtain ⟨front, back, rfl, hfront⟩ := List.eq_append_cons_of_mem h
  rw [List.append_assoc, afterBracket_append hfront, afterBracket_append hfront, List.cons_append,
    afterBracket_bracket, afterBracket_bracket]

theorem afterBracket_suffix (s : List Char) : afterBracket s <:+ s :=
  (List.drop_suffix _ _).trans (List.dropWhile_suffix _)

theorem afterBracket_dropWhile {p : Char → Bool} (hp : p '>' = false) (s : List Char) :
    afterBracket (s.dropWhile p) = afterBracket s := by
  have hfront : '>' ∉ s.takeWhile p := fun hmem => by simpa [hp] using List.mem_takeWhile_imp hmem
  rw [← afterBracket_append hfront, List.takeWhile_append_dropWhile]

theorem drop_length_takeWhile (p : Char → Bool) (s : List Char) :
    s.drop (s.takeWhile p).length = s.dropWhile p := by
  induction s with
  | nil => rfl
  | cons c s ih =>
    rw [List.takeWhile_cons, List.dropWhile_cons]
    split
    · exact ih
    · rfl

theorem afterBracket_skipSpaces (s : List Char) : afterBracket (skipSpaces s) = afterBracket s :=
  afterBracket_dropWhile rfl s

/-- A keyword has no closing angle bracket, so that a declaration goes on to the same end after it. -/
theorem afterBracket_drop_of_beginsWith {keyword : String} (hkeyword : '>' ∉ keyword.toList) {s : List Char}
    (h : beginsWith keyword s = true) : afterBracket (s.drop keyword.length) = afterBracket s := by
  have hfront : '>' ∉ s.take keyword.length := by
    intro hmem
    have hlower : '>' ∈ Text.asciiLower (s.take keyword.length) := List.mem_map.2 ⟨'>', hmem, by decide⟩
    rw [beq_iff_eq.1 h] at hlower
    exact hkeyword hlower
  rw [← afterBracket_append hfront, List.take_append_drop]

/-- An identifier ends at its quote, or at the end of the declaration. -/
theorem afterBracket_of_readIdentifier {s rest : List Char} {id : String} {closed : Bool}
    (h : readIdentifier? s = some (id, closed, rest)) :
    if closed then afterBracket rest = afterBracket s else rest = afterBracket s := by
  unfold readIdentifier? at h
  split at h
  · cases h
  · rename_i quote s
    split at h
    · rename_i hquote
      have hbracket : quote ≠ '>' := by
        rintro rfl
        revert hquote
        decide
      simp only [Option.some.injEq, Prod.mk.injEq] at h
      obtain ⟨-, hclosed, hrest⟩ := h
      rw [drop_length_takeWhile] at hclosed hrest
      have hafter : afterBracket (s.dropWhile fun x => x != quote && x != '>') = afterBracket s :=
        afterBracket_dropWhile (by simp) s
      rw [afterBracket_cons hbracket, ← hafter, ← hrest]
      cases hend : s.dropWhile fun x => x != quote && x != '>' with
      | nil =>
        cases closed <;> rfl
      | cons c rest =>
        have hc := List.head?_dropWhile_not (fun x => x != quote && x != '>') s
        rw [hend, List.head?_cons] at hclosed hc
        by_cases hquoted : c = quote
        · subst hquoted
          rw [← hclosed, beq_self_eq_true, if_pos rfl, afterBracket_cons hbracket]
          rfl
        · have hbracket : c = '>' := by simpa [hquoted] using hc
          subst hbracket
          rw [← hclosed]
          simp [hquoted, afterBracket_bracket]
    · cases h

theorem readTypeEnd_snd (d : Doctype) (s : List Char) : (readTypeEnd d s).2 = afterBracket s := by
  rw [← afterBracket_skipSpaces]
  unfold readTypeEnd
  split
  · rename_i hnil
    rw [hnil]
    rfl
  · rfl

theorem readSystemId_snd (required : Bool) (d : Doctype) (s : List Char) :
    (readSystemId required d s).2 = afterBracket s := by
  rw [← afterBracket_skipSpaces]
  unfold readSystemId
  dsimp only
  split
  · rfl
  · rename_i id closed rest hid
    have hend := afterBracket_of_readIdentifier hid
    cases closed with
    | false => exact hend
    | true =>
      rw [if_pos rfl, readTypeEnd_snd]
      exact hend

theorem readPublicId_snd (d : Doctype) (s : List Char) : (readPublicId d s).2 = afterBracket s := by
  rw [← afterBracket_skipSpaces]
  unfold readPublicId
  dsimp only
  split
  · rfl
  · rename_i id closed rest hid
    have hend := afterBracket_of_readIdentifier hid
    cases closed with
    | false => exact hend
    | true =>
      rw [if_pos rfl, readSystemId_snd]
      exact hend

/-- What follows a document type is what follows its closing angle bracket. -/
theorem readDoctype_snd (s : List Char) : (readDoctype s).2 = afterBracket s := by
  rw [← afterBracket_skipSpaces]
  have hname (s : List Char) : afterBracket (skipSpaces (s.drop
      (s.takeWhile fun c => !isSpace c && c != '>').length)) = afterBracket s := by
    rw [afterBracket_skipSpaces, drop_length_takeWhile, afterBracket_dropWhile (by simp)]
  unfold readDoctype
  dsimp only
  split
  · rename_i hempty
    cases hs : skipSpaces s with
    | nil => rfl
    | cons c rest =>
      have hc := List.head?_dropWhile_not isSpace s
      rw [← skipSpaces, hs, List.head?_cons] at hc
      have hbracket : c = '>' := by
        by_contra hne
        simp [hs, hne, hc] at hempty
      rw [hbracket]
      rfl
  · split
    · rename_i hpublic
      rw [readPublicId_snd]
      exact (afterBracket_drop_of_beginsWith (by decide) hpublic).trans (hname _)
    · split
      · rename_i hsystem
        rw [readSystemId_snd]
        exact (afterBracket_drop_of_beginsWith (by decide) hsystem).trans (hname _)
      · exact hname _

/-- The tag that a piece begins an element with. -/
def Token.startTag? : Token → Option Tag
  | .startTag tag => some tag
  | _ => none

/-- A declaration that is no comment in dashes ends at the next closing angle bracket, and is no tag. -/
theorem readDeclaration_of_not_dashes {s : List Char} (h : ¬['-', '-'] <+: s) :
    (readDeclaration false s).2 = afterBracket s ∧ (readDeclaration false s).1.startTag? = none := by
  unfold readDeclaration
  split
  · exact absurd (List.prefix_append ['-', '-'] _) h
  · split
    · rename_i hdoctype
      rw [readDoctype_snd]
      exact ⟨afterBracket_drop_of_beginsWith (by decide) hdoctype, rfl⟩
    · exact ⟨rfl, rfl⟩

theorem afterCommentText_suffix (s : List Char) : afterCommentText s <:+ s := by
  fun_induction afterCommentText s with
  | case1 => exact List.suffix_rfl
  | case2 rest => exact List.suffix_append ['-', '-', '>'] rest
  | case3 rest => exact List.suffix_append ['-', '-', '!', '>'] rest
  | case4 c rest _ _ ih => exact ih.trans (List.suffix_cons c rest)

theorem afterComment_suffix (s : List Char) : afterComment s <:+ s := by
  unfold afterComment
  split
  · exact List.suffix_cons _ _
  · exact List.suffix_append ['-', '>'] _
  · exact afterCommentText_suffix _

theorem readDeclaration_suffix (s : List Char) : (readDeclaration false s).2 <:+ s := by
  by_cases h : ['-', '-'] <+: s
  · obtain ⟨rest, rfl⟩ := h
    exact (afterComment_suffix rest).trans (List.suffix_append _ _)
  · rw [(readDeclaration_of_not_dashes h).1]
    exact afterBracket_suffix s

variable {place place' : TagPlace} {d d' : TagDraft}

/-- What follows a tag does not count for it. -/
theorem readTag_append {s r : List Char} {tag : Tag} (h : readTag place d s = some (tag, r)) (rest : List Char) :
    readTag place d (s ++ rest) = some (tag, r ++ rest) := by
  induction s generalizing place d with
  | nil => cases h
  | cons c s ih =>
    rw [readTag] at h
    rw [List.cons_append, readTag]
    split at h
    · exact ih h
    · cases h
      rfl

theorem readTag_suffix {s r : List Char} {tag : Tag} (h : readTag place d s = some (tag, r)) : r <:+ s := by
  induction s generalizing place d with
  | nil => cases h
  | cons c s ih =>
    rw [readTag] at h
    split at h
    · exact (ih h).trans (List.suffix_cons c s)
    · cases h
      exact List.suffix_cons c _

/-- The two quotes around values. -/
def IsQuote (c : Char) : Prop := c = '"' ∨ c = '\''

/-- If a reader stands in a quoted value, then its quote is one that there is. -/
def TagPlace.IsProper (place : TagPlace) : Prop := ∀ quote, place = .quoted quote → IsQuote quote

/-- Every character keeps the reader of a tag in a proper place. -/
theorem TagPlace.IsProper.step (h : place.IsProper) {c : Char} (hstep : place.step d c = .more place' d') :
    place'.IsProper := by
  rintro quote rfl
  cases place with
  | beforeValue =>
    simp only [TagPlace.step, unquotedStep, valueStep] at hstep
    grind [IsQuote]
  | quoted quote' =>
    have hquote' := h quote' rfl
    simp only [TagPlace.step, valueStep] at hstep
    grind
  | _ =>
    simp only [TagPlace.step, attributeStep, unquotedStep, valueStep] at hstep
    grind

/-- A closing angle bracket ends a tag except in a quoted value. -/
theorem exists_quoted_of_step_bracket (h : place.IsProper) (hstep : place.step d '>' = .more place' d') :
    ∃ quote, place' = .quoted quote := by
  cases place with
  | quoted quote =>
    have hbracket : '>' ≠ quote := by
      rintro rfl
      exact absurd (h '>' rfl) (by simp [IsQuote])
    rw [TagPlace.step, if_neg hbracket] at hstep
    cases hstep
    exact ⟨quote, rfl⟩
  | _ => cases hstep

/-- No text without its quote ends a quoted value. -/
theorem readTag_quoted {quote : Char} {s : List Char} (h : quote ∉ s) (d : TagDraft) :
    readTag (.quoted quote) d s = none := by
  induction s generalizing d with
  | nil => rfl
  | cons c s ih =>
    obtain ⟨hc, hs⟩ := List.ne_and_not_mem_of_not_mem_cons h
    rw [readTag, TagPlace.step, if_neg (Ne.symm hc)]
    exact ih hs _

/-- A tag that is not finished before a closing angle bracket at the end stands in a quoted value there. -/
theorem exists_quote_of_readTag_eq_none {s : List Char} (hplace : place.IsProper)
    (hlast : s.getLast? = some '>') (h : readTag place d s = none) :
    ∃ quote, IsQuote quote ∧ ∀ rest, quote ∉ rest → readTag place d (s ++ rest) = none := by
  induction s generalizing place d with
  | nil => cases hlast
  | cons c s ih =>
    rw [readTag] at h
    split at h
    · rename_i place' d' hstep
      have hplace' := hplace.step hstep
      cases s with
      | nil =>
        cases hlast
        obtain ⟨quote, rfl⟩ := exists_quoted_of_step_bracket hplace hstep
        refine ⟨quote, hplace' quote rfl, fun rest hrest => ?_⟩
        rw [List.cons_append, readTag, hstep]
        exact readTag_quoted hrest d'
      | cons b s =>
        obtain ⟨quote, hquote, hunfinished⟩ := ih hplace' (by rwa [List.getLast?_cons_cons] at hlast) h
        refine ⟨quote, hquote, fun rest hrest => ?_⟩
        rw [List.cons_append, readTag, hstep]
        exact hunfinished rest hrest
    · cases h

theorem readBracket_slash (c : Char) (s : List Char) :
    readBracket false ('/' :: c :: s) =
      if c = '>' then some (.text [], s)
      else if Text.isAsciiLetter c then readEndTag (c :: s)
      else some (.comment, afterBracket (c :: s)) := by
  by_cases hc : c = '>'
  · rw [hc, if_pos rfl]
    rfl
  · rw [if_neg hc]
    simp only [readBracket]

theorem readBracket_cons {c : Char} (hc : c ≠ '!' ∧ c ≠ '?' ∧ c ≠ '/') (s : List Char) :
    readBracket false (c :: s) =
      if Text.isAsciiLetter c then
        (readTag .name TagDraft.empty (c :: s)).map fun (tag, rest) => (.startTag tag, rest)
      else some (.text ['<'], c :: s) := by
  obtain ⟨hbang, hquestion, hslash⟩ := hc
  rw [readBracket]
  · exact hbang
  · exact hquestion
  · exact hslash

private theorem suffix_of_map_readTag (piece : Tag → Token) {s r : List Char} {t : Token}
    (h : ((readTag place d s).map fun (tag, rest) => (piece tag, rest)) = some (t, r)) : r <:+ s := by
  obtain ⟨read, hread, heq⟩ := Option.map_eq_some_iff.1 h
  cases heq
  exact readTag_suffix hread

theorem readBracket_suffix {s r : List Char} {t : Token} (h : readBracket false s = some (t, r)) : r <:+ s := by
  cases s with
  | nil =>
    cases h
    exact List.suffix_rfl
  | cons c s =>
    by_cases hbang : c = '!'
    · subst hbang
      have hread : readDeclaration false s = (t, r) := Option.some.inj h
      have hsuffix := readDeclaration_suffix s
      rw [hread] at hsuffix
      exact hsuffix.trans (List.suffix_cons _ s)
    by_cases hquestion : c = '?'
    · subst hquestion
      cases h
      exact (afterBracket_suffix s).trans (List.suffix_cons _ s)
    by_cases hslash : c = '/'
    · subst hslash
      cases s with
      | nil =>
        cases h
        exact List.suffix_cons _ _
      | cons c s =>
        refine List.IsSuffix.trans ?_ (List.suffix_cons '/' (c :: s))
        rw [readBracket_slash] at h
        split at h
        · cases h
          exact List.suffix_cons c r
        · split at h
          · rw [readEndTag] at h
            exact suffix_of_map_readTag (fun tag => .endTag tag.name) h
          · cases h
            exact afterBracket_suffix _
    rw [readBracket_cons ⟨hbang, hquestion, hslash⟩] at h
    split at h
    · exact suffix_of_map_readTag .startTag h
    · cases h
      exact List.suffix_rfl

/-- A declaration that is no comment in dashes ends where it ends without the text behind its closing angle
bracket. -/
theorem readBracket_declaration {s : List Char} (hmem : '>' ∈ s) (hdashes : ¬['-', '-'] <+: s) (rest : List Char) :
    ∃ t, t.startTag? = none ∧ readBracket false ('!' :: (s ++ rest)) = some (t, afterBracket s ++ rest) := by
  have hstill : ¬['-', '-'] <+: s ++ rest := by
    intro hfront
    match s, hmem, hdashes with
    | [c], hmem, _ =>
      cases List.mem_singleton.1 hmem
      exact absurd (List.cons_prefix_cons.1 hfront).1 (by decide)
    | c :: c' :: s, _, hdashes =>
      obtain ⟨rfl, htail⟩ := List.cons_prefix_cons.1 hfront
      obtain ⟨rfl, -⟩ := List.cons_prefix_cons.1 htail
      exact hdashes (List.prefix_append ['-', '-'] s)
  obtain ⟨hrest, hpiece⟩ := readDeclaration_of_not_dashes hstill
  refine ⟨_, hpiece, ?_⟩
  rw [← afterBracket_append_of_mem hmem, ← hrest]
  rfl

/-- What follows an angle bracket is read as a tag, or it is another piece that ends where it ends without the
text behind a closing angle bracket. -/
theorem readBracket_cases {s : List Char} (hlast : s.getLast? = some '>') (hcomment : ¬"!--".toList <+: s) :
    (∃ r, ∀ rest, ∃ t, t.startTag? = none ∧ readBracket false (s ++ rest) = some (t, r ++ rest)) ∨
      ∃ (piece : Tag → Token) (s' : List Char), s'.getLast? = some '>' ∧
        ∀ rest, readBracket false (s ++ rest) =
          (readTag .name TagDraft.empty (s' ++ rest)).map fun (tag, r) => (piece tag, r) := by
  obtain ⟨c, s, rfl⟩ := List.exists_cons_of_ne_nil (List.ne_nil_of_mem (List.mem_of_getLast? hlast))
  by_cases hbang : c = '!'
  · subst hbang
    have hmem : '>' ∈ s := by simpa using List.mem_of_getLast? hlast
    exact .inl ⟨afterBracket s, readBracket_declaration hmem fun hfront =>
      hcomment (List.cons_prefix_cons.2 ⟨rfl, hfront⟩)⟩
  by_cases hquestion : c = '?'
  · subst hquestion
    have hmem : '>' ∈ s := by simpa using List.mem_of_getLast? hlast
    refine .inl ⟨afterBracket s, fun rest => ⟨.comment, rfl, ?_⟩⟩
    rw [← afterBracket_append_of_mem hmem]
    rfl
  by_cases hslash : c = '/'
  · subst hslash
    have hmem : '>' ∈ s := by simpa using List.mem_of_getLast? hlast
    obtain ⟨c, s, rfl⟩ := List.exists_cons_of_ne_nil (List.ne_nil_of_mem hmem)
    by_cases hclosed : c = '>'
    · refine .inl ⟨s, fun rest => ⟨.text [], rfl, ?_⟩⟩
      rw [List.cons_append, List.cons_append, readBracket_slash, if_pos hclosed]
    by_cases hletter : Text.isAsciiLetter c = true
    · rw [List.getLast?_cons_cons] at hlast
      refine .inr ⟨fun tag => .endTag tag.name, c :: s, hlast, fun rest => ?_⟩
      rw [List.cons_append, List.cons_append, readBracket_slash, if_neg hclosed, if_pos hletter]
      rfl
    · refine .inl ⟨afterBracket (c :: s), fun rest => ⟨.comment, rfl, ?_⟩⟩
      rw [← afterBracket_append_of_mem hmem, List.cons_append, List.cons_append, readBracket_slash,
        if_neg hclosed, if_neg hletter]
  have hother : c ≠ '!' ∧ c ≠ '?' ∧ c ≠ '/' := ⟨hbang, hquestion, hslash⟩
  by_cases hletter : Text.isAsciiLetter c = true
  · refine .inr ⟨.startTag, c :: s, hlast, fun rest => ?_⟩
    rw [List.cons_append, readBracket_cons hother, if_pos hletter]
  · refine .inl ⟨c :: s, fun rest => ⟨.text ['<'], rfl, ?_⟩⟩
    rw [List.cons_append, readBracket_cons hother, if_neg hletter]

/-- A piece that begins with an angle bracket, but is no comment in dashes, is read up to a closing angle bracket
behind which the text does not count for it; or it is a tag that stands in a quoted value there. -/
theorem readBracket_append {s : List Char} (hlast : s.getLast? = some '>') (hcomment : ¬"!--".toList <+: s) :
    (∃ t r, readBracket false s = some (t, r) ∧
        ∀ rest, ∃ t', t'.startTag? = t.startTag? ∧ readBracket false (s ++ rest) = some (t', r ++ rest)) ∨
      (readBracket false s = none ∧
        ∃ quote, IsQuote quote ∧ ∀ rest, quote ∉ rest → readBracket false (s ++ rest) = none) := by
  rcases readBracket_cases hlast hcomment with ⟨r, hread⟩ | ⟨piece, s', hlast', hread⟩
  · obtain ⟨t, ht, hwhole⟩ := hread []
    rw [List.append_nil, List.append_nil] at hwhole
    exact .inl ⟨t, r, hwhole, fun rest => by rw [ht]; exact hread rest⟩
  · have hwhole := hread []
    rw [List.append_nil, List.append_nil] at hwhole
    cases htag : readTag .name TagDraft.empty s' with
    | some read =>
      obtain ⟨tag, r⟩ := read
      rw [htag, Option.map_some] at hwhole
      refine .inl ⟨piece tag, r, hwhole, fun rest => ⟨piece tag, rfl, ?_⟩⟩
      rw [hread, readTag_append htag, Option.map_some]
    | none =>
      rw [htag, Option.map_none] at hwhole
      have hplace : TagPlace.name.IsProper := fun _ heq => by cases heq
      obtain ⟨quote, hquote, hunfinished⟩ := exists_quote_of_readTag_eq_none hplace hlast' htag
      refine .inr ⟨hwhole, quote, hquote, fun rest hrest => ?_⟩
      rw [hread, hunfinished rest hrest, Option.map_none]

/-- The start tags among the pieces of a text, and what is left of it where no further piece is found. -/
def readStartTags : Nat → List Char → List Tag × List Char
  | 0, s => ([], s)
  | fuel + 1, s =>
    match Token.next? .markup false s with
    | none => ([], s)
    | some (t, rest) => (t.startTag?.toList ++ (readStartTags fuel rest).1, (readStartTags fuel rest).2)

/-- The start tags of a text, and the text of a tag at its end that is not finished. -/
def startTags (s : List Char) : List Tag × List Char := readStartTags s.length s

theorem filterMap_readMarkupTokens (fuel : Nat) (s : List Char) :
    (readMarkupTokens fuel s).filterMap Token.startTag? = (readStartTags fuel s).1 := by
  induction fuel generalizing s with
  | zero => rfl
  | succ fuel ih =>
    rw [readMarkupTokens, readStartTags]
    cases Token.next? .markup false s with
    | none => rfl
    | some piece =>
      obtain ⟨t, rest⟩ := piece
      dsimp only
      rw [← ih rest]
      cases ht : t.startTag? <;> simp [ht]

theorem next?_bracket (s : List Char) : Token.next? .markup false ('<' :: s) = readBracket false s := rfl

theorem next?_text {c : Char} (hc : c ≠ '<') (s : List Char) :
    ∃ text, Token.next? .markup false (c :: s) = some (.text text, s.dropWhile (· != '<')) := by
  refine ⟨expandReferences false ((c :: s).takeWhile (· != '<')), ?_⟩
  have hrest : (c :: s).drop ((c :: s).takeWhile (· != '<')).length = s.dropWhile (· != '<') := by
    rw [drop_length_takeWhile, List.dropWhile_cons_of_pos (by simpa using hc)]
  rw [Token.next?, readMarkup]
  · rw [hrest]
  · simp
  · simpa using hc

/-- A piece takes a character. -/
theorem length_lt_of_next? {s r : List Char} {t : Token} (h : Token.next? .markup false s = some (t, r)) :
    r.length < s.length := by
  cases s with
  | nil => cases h
  | cons c s =>
    by_cases hc : c = '<'
    · rw [hc, next?_bracket] at h
      exact Nat.lt_succ_of_le (readBracket_suffix h).length_le
    · obtain ⟨text, htext⟩ := next?_text hc s
      rw [htext] at h
      cases h
      exact Nat.lt_succ_of_le (List.length_dropWhile_le _ s)

theorem readStartTags_congr {fuel fuel' : Nat} {s : List Char} (h : s.length ≤ fuel) (h' : s.length ≤ fuel') :
    readStartTags fuel s = readStartTags fuel' s := by
  induction fuel generalizing fuel' s with
  | zero =>
    cases List.length_eq_zero_iff.1 (Nat.le_zero.1 h)
    cases fuel' <;> rfl
  | succ fuel ih =>
    cases fuel' with
    | zero =>
      cases List.length_eq_zero_iff.1 (Nat.le_zero.1 h')
      rfl
    | succ fuel' =>
      rw [readStartTags, readStartTags]
      cases hnext : Token.next? .markup false s with
      | none => rfl
      | some piece =>
        have hlt := length_lt_of_next? hnext
        dsimp only
        rw [ih (by omega) (by omega : piece.2.length ≤ fuel')]

theorem startTags_of_next? {s r : List Char} {t : Token} (h : Token.next? .markup false s = some (t, r)) :
    startTags s = (t.startTag?.toList ++ (startTags r).1, (startTags r).2) := by
  have hlt := length_lt_of_next? h
  obtain ⟨n, hn⟩ := Nat.exists_eq_add_one_of_ne_zero (by omega : s.length ≠ 0)
  have hrest : readStartTags n r = startTags r := readStartTags_congr (by omega) (Nat.le_refl _)
  rw [startTags, hn, readStartTags, h]
  dsimp only
  rw [hrest]

theorem startTags_of_next?_eq_none {s : List Char} (h : Token.next? .markup false s = none) :
    startTags s = ([], s) := by
  unfold startTags
  cases s.length with
  | zero => rfl
  | succ n => rw [readStartTags, h]

theorem startTags_bracket {s r : List Char} {t : Token} (h : readBracket false s = some (t, r)) :
    startTags ('<' :: s) = (t.startTag?.toList ++ (startTags r).1, (startTags r).2) :=
  startTags_of_next? (next?_bracket s ▸ h)

theorem startTags_open {s : List Char} (h : readBracket false s = none) : startTags ('<' :: s) = ([], '<' :: s) :=
  startTags_of_next?_eq_none (next?_bracket s ▸ h)

/-- Text between tags has no tag. -/
theorem startTags_cons {c : Char} (hc : c ≠ '<') (s : List Char) : startTags (c :: s) = startTags s := by
  have hrun {c : Char} (hc : c ≠ '<') (s : List Char) :
      startTags (c :: s) = startTags (s.dropWhile (· != '<')) := by
    obtain ⟨text, htext⟩ := next?_text hc s
    exact startTags_of_next? htext
  rw [hrun hc]
  cases s with
  | nil => rfl
  | cons d s =>
    by_cases hd : d = '<'
    · rw [List.dropWhile_cons_of_neg (by simpa using hd)]
    · rw [List.dropWhile_cons_of_pos (by simpa using hd), hrun hd]

/-- A text has no comment in dashes, and ends with a closing angle bracket unless it is empty. -/
structure IsClosed (s : List Char) : Prop where
  last : s ≠ [] → s.getLast? = some '>'
  noComment : ¬"<!--".toList <:+: s

theorem IsClosed.of_suffix {s r : List Char} (h : IsClosed s) (hr : r <:+ s) : IsClosed r where
  last hne := by
    obtain ⟨front, rfl⟩ := hr
    have hlast := h.last (by simp [hne])
    rwa [List.getLast?_append_of_ne_nil _ hne] at hlast
  noComment hmem := h.noComment (hmem.trans hr.isInfix)

/-- The start tags of a text are those of its first part and those of the rest, if the first part finishes its
tags; if it does not, its last tag stands in a quoted value and takes in all text without the quote. -/
theorem startTags_append {s : List Char} (hs : IsClosed s) :
    ((startTags s).2 = [] ∧
        ∀ rest, startTags (s ++ rest) = ((startTags s).1 ++ (startTags rest).1, (startTags rest).2)) ∨
      ((startTags s).2 ≠ [] ∧ ∃ quote, IsQuote quote ∧
        ∀ rest, quote ∉ rest → (startTags (s ++ rest)).1 = (startTags s).1) := by
  induction hn : s.length using Nat.strongRecOn generalizing s with
  | ind n ih =>
    cases s with
    | nil => exact .inl ⟨rfl, fun rest => rfl⟩
    | cons c s =>
      have hs' := hs.of_suffix (List.suffix_cons c s)
      by_cases hc : c ≠ '<'
      · simp only [List.cons_append, startTags_cons hc]
        exact ih s.length (by simp [← hn]) hs' rfl
      cases Decidable.not_not.1 hc
      have hne : s ≠ [] := by
        rintro rfl
        exact absurd (hs.last (by simp)) (by simp)
      have hcomment : ¬"!--".toList <+: s := fun hprefix =>
        hs.noComment (List.cons_prefix_cons.2 ⟨rfl, hprefix⟩).isInfix
      rcases readBracket_append (hs'.last hne) hcomment with
        ⟨t, r, hread, happend⟩ | ⟨hread, quote, hquote, hopen⟩
      · -- The piece is the same with any rest behind it, and what follows it is a shorter text of this kind.
        rw [startTags_bracket hread]
        have hsuffix := readBracket_suffix hread
        have hlength := hsuffix.length_le
        have hwhole (rest : List Char) : startTags ('<' :: s ++ rest) =
            (t.startTag?.toList ++ (startTags (r ++ rest)).1, (startTags (r ++ rest)).2) := by
          obtain ⟨t', ht, hread'⟩ := happend rest
          rw [List.cons_append, startTags_bracket hread', ht]
        simp only [hwhole]
        rcases ih r.length (by simp [← hn]; omega) (hs'.of_suffix hsuffix) rfl with
          ⟨hdone, hrest⟩ | ⟨hleft, quote, hquote, hrest⟩
        · exact .inl ⟨hdone, fun rest => by rw [hrest, List.append_assoc]⟩
        · exact .inr ⟨hleft, quote, hquote, fun rest hnot => by rw [hrest rest hnot]⟩
      · -- The last tag is open, and with it the whole rest up to the quote.
        rw [startTags_open hread]
        refine .inr ⟨List.cons_ne_nil _ _, quote, hquote, fun rest hnot => ?_⟩
        rw [List.cons_append, startTags_open (hopen rest hnot)]

end SiteTech.Html
