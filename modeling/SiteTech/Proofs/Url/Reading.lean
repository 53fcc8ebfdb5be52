import SiteTech.Proofs.Url.Host
import Mathlib.Data.List.TakeWhile

namespace SiteTech.Url

/-- Whether a character can stand in a segment of the path of a web page. -/
def isSegmentChar (c : Char) : Bool := !inPath c && !isSlash true c

/-- The parts of an address are as reading leaves them for a web page. -/
structure IsWebForm (u : Url) : Prop where
  host : ∃ s h, readHost s = .ok h ∧ u.host = some h
  port : ∀ p, u.port = some p → p ≤ 65535 ∧ defaultPort u.scheme ≠ some p
  path : ∃ segments, u.path = .segments segments ∧
    ∀ segment ∈ segments, ∀ c ∈ segment, isSegmentChar c = true

/-- A scheme is one of the two of web pages. -/
def IsWebScheme (scheme : List Char) : Prop := scheme = "http".toList ∨ scheme = "https".toList
deriving Decidable

theorem isWeb_iff {u : Url} : u.isWeb = true ↔ IsWebScheme u.scheme := by
  simp [isWeb, IsWebScheme]

theorem IsWebScheme.isSpecial {scheme : List Char} (h : IsWebScheme scheme) :
    isSpecial scheme = true := by
  rcases h with rfl | rfl <;> decide

theorem IsWebScheme.not_isFileScheme {scheme : List Char} (h : IsWebScheme scheme) :
    isFileScheme scheme = false := by
  rcases h with rfl | rfl <;> decide

private theorem isSegmentChar_percentByte (b : UInt8) : ∀ c ∈ percentByte b, isSegmentChar c = true := by
  have hdigit : ∀ n < 16, isSegmentChar
      (if n < 10 then Char.ofNat (n + 48) else Char.ofNat (n + 55)) = true := by decide
  have hbyte : b.toNat < 256 := b.toNat_lt
  intro c hc
  simp only [percentByte, List.mem_cons, List.not_mem_nil, or_false] at hc
  rcases hc with rfl | rfl | rfl
  · decide
  · exact hdigit _ (by omega)
  · exact hdigit _ (by omega)

theorem isSegmentChar_percentEncode {s : List Char} (hs : ∀ c ∈ s, isSlash true c = false) :
    ∀ c ∈ percentEncode inPath s, isSegmentChar c = true := by
  intro c hc
  obtain ⟨d, hd, hc⟩ := List.mem_flatMap.1 hc
  split at hc
  · obtain ⟨b, -, hc⟩ := List.mem_flatMap.1 hc
    exact isSegmentChar_percentByte b c hc
  · rename_i hplain
    rw [List.mem_singleton.1 hc, isSegmentChar, hs d hd, eq_false_of_ne_true hplain]
    rfl

theorem not_isSlash_of_mem_splitSegments {special : Bool} {s segment : List Char} {c : Char}
    (hsegment : segment ∈ splitSegments special s) (hc : c ∈ segment) : isSlash special c = false := by
  induction s generalizing segment with
  | nil =>
    cases List.mem_singleton.1 hsegment
    cases hc
  | cons d s ih =>
    rw [splitSegments] at hsegment
    split at hsegment
    · rcases List.mem_cons.1 hsegment with rfl | hsegment
      · cases hc
      · exact ih hsegment hc
    · rename_i hslash
      rcases Text.mem_of_mem_consPiece hsegment hc with rfl | ⟨piece, hpiece, hc⟩
      · exact eq_false_of_ne_true hslash
      · exact ih hpiece hc

theorem mem_of_mem_goUp {file : Bool} {done : List (List Char)} {segment : List Char}
    (h : segment ∈ goUp file done) : segment ∈ done := by
  unfold goUp at h
  split at h
  · split at h
    · exact h
    · cases h
  · exact List.mem_cons_of_mem _ h
  · cases h

/-- Whether a segment neither goes up nor stays where it is. -/
def IsStep (segment : List Char) : Prop := isDoubleDot segment = false ∧ isSingleDot segment = false

/-- Following segments, none of which is that of a drive, only leaves segments that were there before, those
that lead somewhere and empty ones. -/
theorem mem_of_mem_follow {done segments : List (List Char)} {segment : List Char}
    (h : segment ∈ follow false done segments) :
    segment ∈ done ∨ (segment ∈ segments ∧ IsStep segment) ∨ segment = [] := by
  induction segments generalizing done with
  | nil => exact .inl h
  | cons first rest ih =>
    have hrest {done' : List (List Char)} (h : segment ∈ follow false done' rest)
        (hdone : ∀ s ∈ done', s ∈ done ∨ (s = first ∧ IsStep s) ∨ s = []) :
        segment ∈ done ∨ (segment ∈ first :: rest ∧ IsStep segment) ∨ segment = [] := by
      rw [List.mem_cons]
      rcases ih h with h | ⟨h, hstep⟩ | h
      · rcases hdone segment h with h | ⟨h, hstep⟩ | h
        · exact .inl h
        · exact .inr (.inl ⟨.inl h, hstep⟩)
        · exact .inr (.inr h)
      · exact .inr (.inl ⟨.inr h, hstep⟩)
      · exact .inr (.inr h)
    rw [follow] at h
    split at h
    · refine hrest h fun s hs => ?_
      split at hs
      · rcases List.mem_cons.1 hs with hs | hs
        · exact .inr (.inr hs)
        · exact .inl (mem_of_mem_goUp hs)
      · exact .inl (mem_of_mem_goUp hs)
    · rename_i hdouble
      split at h
      · refine hrest h fun s hs => ?_
        split at hs
        · rcases List.mem_cons.1 hs with hs | hs
          · exact .inr (.inr hs)
          · exact .inl hs
        · exact .inl hs
      · rename_i hsingle
        rw [if_neg (by simp)] at h
        refine hrest h fun s hs => ?_
        rcases List.mem_cons.1 hs with rfl | hs
        · exact .inr (.inl ⟨rfl, eq_false_of_ne_true hdouble, eq_false_of_ne_true hsingle⟩)
        · exact .inl hs

theorem isSegmentChar_readSegments {scheme s : List Char} (hweb : IsWebScheme scheme)
    {start : List (List Char)} (hstart : ∀ segment ∈ start, ∀ c ∈ segment, isSegmentChar c = true) :
    ∀ segment ∈ readSegments scheme start s, ∀ c ∈ segment, isSegmentChar c = true := by
  intro segment hsegment
  simp only [readSegments, hweb.not_isFileScheme, hweb.isSpecial, Bool.false_eq_true, if_false,
    List.mem_reverse] at hsegment
  rcases mem_of_mem_follow hsegment with h | ⟨h, -⟩ | rfl
  · exact hstart segment (List.mem_reverse.1 h)
  · obtain ⟨raw, hraw, rfl⟩ := List.mem_map.1 h
    exact isSegmentChar_percentEncode fun c hc => not_isSlash_of_mem_splitSegments hraw hc
  · simp

theorem percentEncode_eq_self {set : Char → Bool} {s : List Char} (h : ∀ c ∈ s, set c = false) :
    percentEncode set s = s := by
  induction s with
  | nil => rfl
  | cons c s ih =>
    rw [List.forall_mem_cons] at h
    rw [percentEncode, List.flatMap_cons, h.1, ← percentEncode, ih h.2]
    rfl

theorem splitSegments_eq_self {special : Bool} {s : List Char} (h : ∀ c ∈ s, isSlash special c = false) :
    splitSegments special s = [s] := by
  induction s with
  | nil => rfl
  | cons c s ih =>
    rw [List.forall_mem_cons] at h
    rw [splitSegments, h.1, ih h.2]
    rfl

theorem splitSegments_append {special : Bool} {s : List Char} (h : ∀ c ∈ s, isSlash special c = false)
    (rest : List Char) : splitSegments special (s ++ '/' :: rest) = s :: splitSegments special rest := by
  induction s with
  | nil =>
    rw [List.nil_append, splitSegments]
    rfl
  | cons c s ih =>
    rw [List.forall_mem_cons] at h
    rw [List.cons_append, splitSegments, h.1, ih h.2]
    rfl

theorem splitSegments_text {special : Bool} {first : List Char} {rest : List (List Char)}
    (h : ∀ segment ∈ first :: rest, ∀ c ∈ segment, isSlash special c = false) :
    splitSegments special (first ++ (Path.segments rest).text) = first :: rest := by
  induction rest generalizing first with
  | nil =>
    rw [List.forall_mem_singleton] at h
    rw [Path.text, List.flatMap_nil, List.append_nil, splitSegments_eq_self h]
  | cons second rest ih =>
    rw [List.forall_mem_cons] at h
    rw [Path.text, List.flatMap_cons, List.cons_append, splitSegments_append h.1]
    exact congrArg (first :: ·) (ih h.2)

theorem follow_eq_append {segments : List (List Char)} (h : ∀ segment ∈ segments, IsStep segment)
    (done : List (List Char)) : follow false done segments = segments.reverse ++ done := by
  induction segments generalizing done with
  | nil => rfl
  | cons first rest ih =>
    rw [List.forall_mem_cons] at h
    obtain ⟨⟨hdouble, hsingle⟩, hrest⟩ := h
    rw [follow, if_neg (by simp [hdouble]), if_neg (by simp [hsingle]), if_neg (by simp), ih hrest,
      List.reverse_cons, List.append_assoc]
    rfl

/-- A path whose segments have nothing to encode and lead somewhere is read as it is written. -/
theorem readSegments_text {scheme : List Char} (hweb : IsWebScheme scheme) {first : List Char} {rest : List (List Char)}
    (hchars : ∀ segment ∈ first :: rest, ∀ c ∈ segment, isSegmentChar c = true)
    (hsteps : ∀ segment ∈ first :: rest, IsStep segment) :
    readSegments scheme [] (dropSlash true (Path.segments (first :: rest)).text) = first :: rest := by
  have hplain : ∀ segment ∈ first :: rest, ∀ c ∈ segment, inPath c = false ∧ isSlash true c = false := by
    intro segment hsegment c hc
    simpa [isSegmentChar] using hchars segment hsegment c hc
  have hencoded : (first :: rest).map (percentEncode inPath) = first :: rest :=
    (List.map_congr_left fun segment hsegment =>
      percentEncode_eq_self fun c hc => (hplain segment hsegment c hc).1).trans (List.map_id _)
  have hdrop : dropSlash true (Path.segments (first :: rest)).text = first ++ (Path.segments rest).text := by
    rw [Path.text, List.flatMap_cons, List.cons_append]
    rfl
  rw [hdrop, readSegments, hweb.isSpecial, hweb.not_isFileScheme,
    splitSegments_text fun segment hsegment c hc => (hplain segment hsegment c hc).2, hencoded,
    List.reverse_nil]
  simp [follow_eq_append hsteps]

theorem dotted_eq_self {s : List Char} (h : '%' ∉ s) : dotted s = s := by
  fun_induction dotted s with
  | case1 c rest hc ih => exact absurd List.mem_cons_self h
  | case2 c rest hc ih => exact absurd List.mem_cons_self h
  | case3 c rest hother ih => rw [ih fun hmem => h (List.mem_cons_of_mem _ hmem)]
  | case4 => rfl

theorem isStep_nil : IsStep [] := by
  simp [IsStep, isDoubleDot, isSingleDot, dotted]

/-- Whether a segment is read as it is written, and leads somewhere. -/
def isPlainSegment (s : List Char) : Bool :=
  s.all isSegmentChar && !s.contains '%' && s != ['.'] && s != ['.', '.']

theorem isStep_of_isPlainSegment {s : List Char} (h : isPlainSegment s = true) : IsStep s := by
  simp only [isPlainSegment, Bool.and_eq_true, Bool.not_eq_true', List.contains_eq_mem, decide_eq_false_iff_not,
    bne_iff_ne] at h
  obtain ⟨⟨⟨-, hpercent⟩, hsingle⟩, hdouble⟩ := h
  simp [IsStep, isDoubleDot, isSingleDot, dotted_eq_self hpercent, hsingle, hdouble]

theorem isSegmentChar_of_isPlainSegment {s : List Char} (h : isPlainSegment s = true) :
    ∀ c ∈ s, isSegmentChar c = true := by
  simp only [isPlainSegment, Bool.and_eq_true, List.all_eq_true] at h
  exact h.1.1.1

theorem readSegments_nil {scheme : List Char} (hweb : IsWebScheme scheme) : readSegments scheme [] [] = [[]] := by
  have hchars : ∀ segment ∈ ([[]] : List (List Char)), ∀ c ∈ segment, isSegmentChar c = true := by simp
  exact readSegments_text hweb hchars (by simp [isStep_nil])

theorem readPort_eq_ok {scheme s : List Char} {port : Option Nat} (h : readPort scheme s = .ok port) :
    ∀ p, port = some p → p ≤ 65535 ∧ defaultPort scheme ≠ some p := by
  intro p hp
  subst hp
  unfold readPort at h
  split at h
  · split at h
    · cases h
    · split at h
      · cases h
      · rename_i n hn hle
        split at h
        · cases h
        · rename_i hdefault
          simp only [Except.ok.injEq, Option.some.injEq] at h
          subst h
          simp only [Bool.or_eq_true, beq_iff_eq, not_or] at hdefault
          exact ⟨Nat.le_of_not_lt hle, hdefault.2⟩
  · cases h

theorem nonempty?_eq_some {s : List Char} {h : Host} (hread : readHost s = .ok h) :
    h.nonempty? = some h := by
  have hne := (isHostText_of_readHost hread).nonempty
  unfold Host.nonempty?
  split
  · exact absurd rfl hne
  · rfl

private theorem bind_eq_ok {ε α β : Type} {x : Except ε α} {f : α → Except ε β} {b : β} :
    x >>= f = .ok b ↔ ∃ a, x = .ok a ∧ f a = .ok b := by
  cases x with
  | error e => simp [bind, Except.bind]
  | ok a => simp [bind, Except.bind]

theorem readHostAndPort_eq_ok {scheme s : List Char} (hweb : IsWebScheme scheme)
    {host : Option Host} {port : Option Nat} (h : readHostAndPort scheme s = .ok (host, port)) :
    (∃ h, readHost (splitHost false s).1 = .ok h ∧ host = some h) ∧
      ∀ p, port = some p → p ≤ 65535 ∧ defaultPort scheme ≠ some p := by
  simp only [readHostAndPort, hweb.isSpecial, Bool.true_and, if_true] at h
  split at h
  · cases h
  obtain ⟨read, hread, h⟩ := bind_eq_ok.1 h
  split at h
  · split at h
    · cases h
    obtain ⟨p, hp, h⟩ := bind_eq_ok.1 h
    cases h
    exact ⟨⟨read, hread, nonempty?_eq_some hread⟩, readPort_eq_ok hp⟩
  · cases h
    exact ⟨⟨read, hread, nonempty?_eq_some hread⟩, by simp⟩

theorem readAuthority_eq_ok {scheme s : List Char} {a : Authority} (h : readAuthority scheme s = .ok a) :
    ∃ t, readHostAndPort scheme t = .ok (a.host, a.port) := by
  unfold readAuthority at h
  split at h
  · obtain ⟨⟨host, port⟩, hread, h⟩ := bind_eq_ok.1 h
    cases h
    exact ⟨_, hread⟩
  · split at h
    · cases h
    obtain ⟨⟨host, port⟩, hread, h⟩ := bind_eq_ok.1 h
    cases h
    exact ⟨_, hread⟩
  · generalize readUser _ = name at h
    obtain ⟨⟨host, port⟩, hread, h⟩ := bind_eq_ok.1 h
    dsimp only at h
    split at h
    · cases h
    cases h
    exact ⟨_, hread⟩

/-- What is read after two slashes has the authority that stands in front. -/
theorem exists_readAuthority {scheme s : List Char} {u : Url} (h : readAfterSlashes scheme s = .ok u) :
    ∃ a, readAuthority scheme (s.takeWhile (!isAuthorityEnd (isSpecial scheme) ·)) = .ok a ∧
      u.username = a.username ∧ u.host = a.host := by
  unfold readAfterSlashes at h
  obtain ⟨a, ha, h⟩ := bind_eq_ok.1 h
  cases h
  exact ⟨a, ha, rfl, rfl⟩

/-- A text that names a user is cut at an at sign. -/
theorem eq_append_of_splitUser {s user rest : List Char} (h : splitUser s = some (user, rest)) :
    s = user ++ '@' :: rest := by
  unfold splitUser at h
  split at h
  · rename_i hat
    have hwhole := List.takeWhile_append_dropWhile (p := (· != '@')) (l := s.reverse)
    have hhead := List.head?_dropWhile_not (· != '@') s.reverse
    cases hdrop : s.reverse.dropWhile (· != '@') with
    | nil =>
      have hnone := List.dropWhile_eq_nil_iff.1 hdrop '@' (by simpa using hat)
      simp at hnone
    | cons d front =>
      rw [hdrop] at hwhole hhead
      obtain rfl : d = '@' := by simpa using hhead
      have htext : s = front.reverse ++ '@' :: (s.reverse.takeWhile (· != '@')).reverse := by
        rw [← List.reverse_inj, ← hwhole]
        simp [hwhole]
      generalize (s.reverse.takeWhile (· != '@')).reverse = host at h htext
      subst htext
      dsimp only at h
      have hlength : (front.reverse ++ '@' :: host).length - host.length =
          (front.reverse ++ ['@']).length := by
        simp only [List.length_append, List.length_cons, List.length_nil]
        omega
      rw [hlength, List.append_cons _ '@' host, List.take_left, List.dropLast_concat] at h
      cases h
      rfl
  · cases h

theorem percentEncode_cons_ne_nil {set : Char → Bool} {c : Char} (hc : set c = false) (s : List Char) :
    percentEncode set (c :: s) ≠ [] := by
  rw [percentEncode, List.flatMap_cons, hc]
  exact List.cons_ne_nil _ _

/-- An authority without an at sign is host and port. -/
theorem readHostAndPort_of_readAuthority_of_splitUser {scheme s : List Char} {a : Authority}
    (hsplit : splitUser s = none) (h : readAuthority scheme s = .ok a) :
    readHostAndPort scheme s = .ok (a.host, a.port) := by
  unfold readAuthority at h
  rw [hsplit] at h
  obtain ⟨⟨host, port⟩, hread, h⟩ := bind_eq_ok.1 h
  cases h
  exact hread

/-- An authority without the name of a user is host and port, unless it begins with a character that
would have to be encoded in the name. -/
theorem readHostAndPort_of_readAuthority {scheme s : List Char} {c : Char} {a : Authority}
    (hc : inUserInfo c = false) (h : readAuthority scheme (c :: s) = .ok a) (huser : a.username = []) :
    readHostAndPort scheme (c :: s) = .ok (a.host, a.port) := by
  have hat : c ≠ '@' := by
    rintro rfl
    cases hc
  have hcolon : (c == ':') = false := by
    rw [beq_eq_false_iff_ne]
    rintro rfl
    cases hc
  unfold readAuthority at h
  split at h
  · obtain ⟨⟨host, port⟩, hread, h⟩ := bind_eq_ok.1 h
    cases h
    exact hread
  · rename_i hsplit
    have hcut := eq_append_of_splitUser hsplit
    rw [List.nil_append, List.cons.injEq] at hcut
    exact absurd hcut.1 hat
  · rename_i user rest hne hsplit
    have hcut := eq_append_of_splitUser hsplit
    obtain ⟨d, user, rfl⟩ := List.exists_cons_of_ne_nil fun hnil => hne hnil
    rw [List.cons_append, List.cons.injEq] at hcut
    obtain ⟨rfl, -⟩ := hcut
    have hname : (readUser (c :: user)).1 ≠ [] := by
      rw [readUser, Text.splitOnce, hcolon]
      cases Text.splitOnce ':' user with
      | none => exact percentEncode_cons_ne_nil hc _
      | some parts =>
        obtain ⟨name, password⟩ := parts
        cases password with
        | nil => exact percentEncode_cons_ne_nil hc _
        | cons first password => exact percentEncode_cons_ne_nil hc _
    generalize readUser (c :: user) = name at h hname
    obtain ⟨⟨host, port⟩, hread, h⟩ := bind_eq_ok.1 h
    dsimp only at h
    split at h
    · cases h
    cases h
    exact absurd huser hname

/-- The path of what is read after two slashes has no segments, or segments that were followed from the
start. -/
theorem path_of_readAfterSlashes {scheme s : List Char} {u : Url} (h : readAfterSlashes scheme s = .ok u) :
    u.scheme = scheme ∧ (u.path = .segments [] ∨ ∃ t, u.path = .segments (readSegments scheme [] t)) := by
  unfold readAfterSlashes at h
  obtain ⟨a, -, h⟩ := bind_eq_ok.1 h
  cases h
  refine ⟨rfl, ?_⟩
  dsimp only
  split
  · exact .inl rfl
  · exact .inr ⟨_, rfl⟩

/-- An address that is read after two slashes has the scheme that was given, and the form of a web page
if that is one of a web page. -/
theorem readAfterSlashes_eq_ok {scheme s : List Char} {u : Url}
    (h : readAfterSlashes scheme s = .ok u) :
    u.scheme = scheme ∧ (u.isWeb = true → u.IsWebForm) := by
  obtain ⟨hscheme, hpath⟩ := path_of_readAfterSlashes h
  unfold readAfterSlashes at h
  obtain ⟨a, ha, h⟩ := bind_eq_ok.1 h
  cases h
  refine ⟨rfl, fun hweb => ?_⟩
  rw [isWeb_iff] at hweb
  obtain ⟨t, ht⟩ := readAuthority_eq_ok ha
  obtain ⟨⟨host, hhost, hsome⟩, hport⟩ := readHostAndPort_eq_ok hweb ht
  refine ⟨⟨_, host, hhost, hsome⟩, hport, ?_⟩
  rcases hpath with hpath | ⟨t, hpath⟩
  · exact ⟨[], hpath, by simp⟩
  · exact ⟨_, hpath, isSegmentChar_readSegments hweb (by simp)⟩

theorem readPlain_scheme {scheme s : List Char} {u : Url} (h : readPlain scheme s = .ok u) :
    u.scheme = scheme := by
  unfold readPlain at h
  split at h
  · exact (readAfterSlashes_eq_ok h).1
  · cases h
    rfl

theorem readFile_scheme {s : List Char} {u : Url} (h : readFile s = .ok u) :
    u.scheme = "file".toList := by
  unfold readFile at h
  split at h
  · split at h
    · dsimp only at h
      split at h
      · cases h
        rfl
      · obtain ⟨host, -, h⟩ := bind_eq_ok.1 h
        cases h
        rfl
    · cases h
      rfl
  · cases h
    rfl

theorem readWithScheme_scheme {scheme s : List Char} {u : Url}
    (h : readWithScheme none (fun _ => .error .noBase) scheme s = .ok u) : u.scheme = scheme := by
  unfold readWithScheme at h
  split at h
  · rename_i hfile
    rw [readFile_scheme h, beq_iff_eq.1 hfile]
  · split at h
    · dsimp only at h
      split at h
      · cases h
      · exact (readAfterSlashes_eq_ok h).1
    · exact readPlain_scheme h

/-- A scheme stands in front of a colon. -/
theorem eq_append_of_readScheme {s scheme rest : List Char} (h : readScheme s = some (scheme, rest)) :
    ∃ name, s = name ++ ':' :: rest ∧ Text.asciiLower name = scheme := by
  unfold readScheme at h
  split at h
  · rename_i c t
    split at h
    · dsimp only at h
      split at h
      · rename_i rest' hdrop
        cases h
        obtain ⟨after, hafter⟩ := List.takeWhile_prefix isSchemeChar (l := c :: t)
        generalize (c :: t).takeWhile isSchemeChar = name at hdrop hafter
        rw [← hafter, List.drop_left] at hdrop
        exact ⟨name, by rw [← hafter, hdrop], rfl⟩
      · cases h
    · cases h
  · cases h

/-- A link without scheme is read as an address with the scheme of the page, or it leads to its host and
port. There it keeps the path of the page, or goes on from some of its segments. -/
theorem readRelative_eq_ok {base u : Url} {s : List Char} (h : readRelative base s = .ok u) :
    (∃ t, readAfterSlashes base.scheme t = .ok u) ∨
      (u.scheme = base.scheme ∧ u.host = base.host ∧ u.port = base.port ∧
        (u.path = base.path ∨ ∃ start t, start ⊆ base.path.segmentList ∧
          u.path = .segments (readSegments base.scheme start t))) := by
  unfold readRelative at h
  split at h
  · cases h
    exact .inr ⟨rfl, rfl, rfl, .inl rfl⟩
  · cases h
    exact .inr ⟨rfl, rfl, rfl, .inl rfl⟩
  · cases h
    exact .inr ⟨rfl, rfl, rfl, .inl rfl⟩
  · exact .inl ⟨_, h⟩
  · split at h
    · dsimp only at h
      split at h
      · exact .inl ⟨_, h⟩
      · cases h
        exact .inr ⟨rfl, rfl, rfl, .inr ⟨[], _, List.nil_subset _, rfl⟩⟩
    · cases h
      exact .inr ⟨rfl, rfl, rfl, .inr ⟨_, _, List.dropLast_subset _, rfl⟩⟩

theorem readRelative_isWebForm {base u : Url} {s : List Char}
    (hbase : base.isWeb = true → base.IsWebForm) (h : readRelative base s = .ok u)
    (hweb : u.isWeb = true) : u.IsWebForm := by
  rcases readRelative_eq_ok h with ⟨t, h⟩ | ⟨hscheme, hhost, hport, hpath⟩
  · exact (readAfterSlashes_eq_ok h).2 hweb
  · rw [isWeb_iff, hscheme] at hweb
    have hbase := hbase (isWeb_iff.2 hweb)
    refine ⟨hhost ▸ hbase.host, by rw [hport, hscheme]; exact hbase.port, ?_⟩
    rcases hpath with hpath | ⟨start, t, hstart, hpath⟩
    · exact hpath ▸ hbase.path
    · obtain ⟨segments, hsegments, hchars⟩ := hbase.path
      rw [hsegments] at hstart
      exact ⟨_, hpath, isSegmentChar_readSegments hweb fun segment hmem => hchars segment (hstart hmem)⟩

theorem readWithScheme_eq_ok {base : Option Url} {relative : List Char → Except UrlError Url}
    {scheme s : List Char} {u : Url} (h : readWithScheme base relative scheme s = .ok u)
    (hweb : u.isWeb = true) : (∃ t, relative t = .ok u) ∨ ∃ t, readAfterSlashes scheme t = .ok u := by
  unfold readWithScheme at h
  split at h
  · have hscheme := readFile_scheme h
    rw [isWeb_iff, hscheme] at hweb
    exact absurd hweb (by decide)
  · split at h
    · dsimp only at h
      split at h
      · exact .inl ⟨_, h⟩
      · exact .inr ⟨_, h⟩
    · rename_i hspecial
      rw [isWeb_iff, readPlain_scheme h] at hweb
      exact absurd hweb.isSpecial hspecial

/-- The address of a web page is read after two slashes, or as a link without scheme. -/
theorem read_eq_ok {base : Option Url} {text : List Char} {u : Url} (h : read base text = .ok u)
    (hweb : u.isWeb = true) :
    (∃ scheme t, readAfterSlashes scheme t = .ok u) ∨ ∃ b t, base = some b ∧ readRelative b t = .ok u := by
  unfold read at h
  dsimp only at h
  split at h
  · rcases readWithScheme_eq_ok h hweb with ⟨t, h⟩ | ⟨t, h⟩
    · split at h
      · exact .inr ⟨_, t, rfl, h⟩
      · cases h
    · exact .inl ⟨_, t, h⟩
  · split at h
    · cases h
    · split at h
      · exact .inr ⟨_, _, rfl, h⟩
      · split at h
        · exact .inr ⟨_, _, rfl, h⟩
        · cases h

/-- Reading gives web pages their form, if the page that a link is read on has it. -/
theorem read_isWebForm {base : Option Url} {text : List Char} {u : Url}
    (hbase : ∀ b, base = some b → b.isWeb = true → b.IsWebForm) (h : read base text = .ok u)
    (hweb : u.isWeb = true) : u.IsWebForm := by
  rcases read_eq_ok h hweb with ⟨scheme, t, h⟩ | ⟨b, t, hb, h⟩
  · exact (readAfterSlashes_eq_ok h).2 hweb
  · exact readRelative_isWebForm (hbase b hb) h hweb

end SiteTech.Url
