import SiteTech.Crawl.Link
import SiteTech.Proofs.Url.Reading
import Mathlib.Data.List.TakeWhile

namespace SiteTech.Url

/-- A text is that of a path that a web page is visited under: nothing, or a slash and characters that
neither end a path nor are dropped. -/
structure IsPathText (p : List Char) : Prop where
  slash : p = [] ∨ ∃ rest, p = '/' :: rest
  chars : ∀ c ∈ p, isPathEnd c = false ∧ isEdge c = false

theorem isPathText_iff {p : List Char} :
    IsPathText p ↔ (p = [] ∨ p.head? = some '/') ∧ (p.all fun c => !isPathEnd c && !isEdge c) = true := by
  simp only [List.all_eq_true, Bool.and_eq_true, Bool.not_eq_true', List.head?_eq_some_iff]
  exact ⟨fun h => ⟨h.slash, h.chars⟩, fun h => ⟨h.1, h.2⟩⟩

instance (p : List Char) : Decidable (IsPathText p) := decidable_of_iff' _ isPathText_iff

private theorem plain_of_isSegmentChar {c : Char} (h : isSegmentChar c = true) :
    isPathEnd c = false ∧ isEdge c = false := by
  simp only [isSegmentChar, inPath, inFragment, inControls, Bool.and_eq_true, Bool.not_eq_true',
    Bool.or_eq_false_iff, decide_eq_false_iff_not, List.contains_eq_mem, List.mem_cons, List.not_mem_nil,
    or_false, not_or] at h
  obtain ⟨⟨⟨⟨hlow, -⟩, hblank, -⟩, hhash, hquestion, -⟩, -⟩ := h
  have hspace : c.toNat ≠ 0x20 := fun heq => hblank (Char.toNat_inj.1 heq)
  constructor
  · simp [isPathEnd, hhash, hquestion]
  · simp only [isEdge, decide_eq_false_iff_not]
    omega

theorem isSegmentChar_of_mem_dropTrailingSlashes {segments : List (List Char)}
    (h : ∀ segment ∈ segments, ∀ c ∈ segment, isSegmentChar c = true) {c : Char}
    (hc : c ∈ Text.dropTrailingSlashes (Path.segments segments).text) : c = '/' ∨ isSegmentChar c = true := by
  obtain ⟨tail, htail⟩ := Text.dropEndWhile_prefix (· == '/') (Path.segments segments).text
  have hmem : c ∈ (Path.segments segments).text := htail ▸ List.mem_append_left _ hc
  obtain ⟨segment, hsegment, hc⟩ := List.mem_flatMap.1 hmem
  rcases List.mem_cons.1 hc with rfl | hc
  · exact .inl rfl
  · exact .inr (h segment hsegment c hc)

theorem isPathText_text {segments : List (List Char)}
    (h : ∀ segment ∈ segments, ∀ c ∈ segment, isSegmentChar c = true) :
    IsPathText (Path.segments segments).text := by
  constructor
  · cases segments with
    | nil => exact .inl rfl
    | cons first rest => exact .inr ⟨_, rfl⟩
  · intro c hc
    obtain ⟨segment, hsegment, hc⟩ := List.mem_flatMap.1 hc
    rcases List.mem_cons.1 hc with rfl | hc
    · decide
    · exact plain_of_isSegmentChar (h segment hsegment c hc)

theorem IsPathText.of_append {p tail : List Char} (h : IsPathText (p ++ tail)) : IsPathText p := by
  refine ⟨?_, fun c hc => h.chars c (List.mem_append_left _ hc)⟩
  cases p with
  | nil => exact .inl rfl
  | cons c rest =>
    rcases h.slash with hnil | ⟨after, hslash⟩
    · cases hnil
    · rw [List.cons_append, List.cons.injEq] at hslash
      exact .inr ⟨rest, hslash.1 ▸ rfl⟩

theorem isPathText_dropTrailingSlashes {segments : List (List Char)}
    (h : ∀ segment ∈ segments, ∀ c ∈ segment, isSegmentChar c = true) :
    IsPathText (Text.dropTrailingSlashes (Path.segments segments).text) := by
  obtain ⟨tail, htail⟩ := Text.dropEndWhile_prefix (· == '/') (Path.segments segments).text
  have hwhole := isPathText_text h
  rw [← htail] at hwhole
  exact hwhole.of_append

/-- Nothing is dropped from a text without blanks and control characters. -/
theorem significant_eq_self {s : List Char} (h : ∀ c ∈ s, isEdge c = false) : significant s = s := by
  have hfront : s.dropWhile isEdge = s := by
    cases s with
    | nil => rfl
    | cons c s => rw [List.dropWhile_cons_of_neg (by simp [h c List.mem_cons_self])]
  rw [significant, hfront, Text.dropEndWhile_eq_self h, List.filter_eq_self]
  intro c hc
  have hc := h c hc
  simp only [isEdge, decide_eq_false_iff_not] at hc
  have hne (d : Char) (hd : d.toNat ≤ 0x20) : c ≠ d := by
    rintro rfl
    exact hc hd
  simp [isIgnored, hne]

theorem readScheme_append {scheme : List Char} (hweb : IsWebScheme scheme) (rest : List Char) :
    readScheme (scheme ++ ':' :: rest) = some (scheme, rest) := by
  rcases hweb with rfl | rfl <;> rfl

theorem readPort_decimal {scheme : List Char} {p : Nat} (hp : p ≤ 65535)
    (hdefault : defaultPort scheme ≠ some p) : readPort scheme (Text.decimal p) = .ok (some p) := by
  have hdigits : (Text.decimal p).all Text.isAsciiDigit = true :=
    List.all_eq_true.2 fun c hc => Text.isAsciiDigit_of_mem_decimal hc
  have hne : (Text.decimal p).isEmpty = false := by simp [Text.decimal]
  rw [readPort, if_pos hdigits, Text.readDigits_decimal]
  simp [Nat.not_lt.2 hp, hne, hdefault]

/-- The port as it is written behind a host. -/
def portText : Option Nat → List Char
  | some p => ':' :: Text.decimal p
  | none => []

private theorem splitHost_portText (port : Option Nat) :
    splitHost false (portText port) = ([], portText port) := by
  cases port <;> rfl

theorem isAuthorityChar_of_mem_portText {port : Option Nat} :
    ∀ c ∈ portText port, isAuthorityChar c = true := by
  intro c hc
  cases port with
  | none => cases hc
  | some p =>
    rcases List.mem_cons.1 hc with rfl | hc
    · decide
    · obtain ⟨d, hd, rfl⟩ := Text.exists_digitChar_of_mem_toDigits (by decide) hc
      exact isAuthorityChar_digitChar d (by omega)

variable {scheme text : List Char} {port : Option Nat} {h : Host}

/-- Host and port are told apart where they were put together. -/
theorem splitHost_written (htext : IsHostText text) (port : Option Nat) :
    splitHost false (text ++ portText port) = (text, portText port) := by
  rw [htext.cut, splitHost_portText, List.append_nil]

theorem readHostAndPort_append (hweb : IsWebScheme scheme) (htext : IsHostText text)
    (hread : readHost text = .ok h)
    (hport : ∀ p, port = some p → p ≤ 65535 ∧ defaultPort scheme ≠ some p) :
    readHostAndPort scheme (text ++ portText port) = .ok (some h, port) := by
  have hcut := splitHost_written htext port
  have hne : text.isEmpty = false := by simp [htext.nonempty]
  have hform := isHostText_of_readHost hread
  simp only [readHostAndPort, hweb.isSpecial, hcut, hne, Bool.and_false, Bool.false_eq_true, if_true,
    if_false, hread]
  cases port with
  | none =>
    rw [← nonempty?_eq_some hread]
    rfl
  | some p =>
    obtain ⟨hp, hdefault⟩ := hport p rfl
    have hdomain : h ≠ .domain [] := fun heq => hform.nonempty (heq ▸ rfl)
    have hready := readPort_decimal hp hdefault
    simp [portText, bind, Except.bind, pure, Except.pure, hdomain, hready, nonempty?_eq_some hread]

/-- Host and port alone tell of no user. -/
theorem splitUser_written (htext : IsHostText text) (port : Option Nat) :
    splitUser (text ++ portText port) = none := by
  refine if_neg fun hat => ?_
  rw [List.contains_iff_mem, List.mem_append] at hat
  rcases hat with hat | hat
  · exact absurd (htext.chars _ hat) (by decide)
  · exact absurd (isAuthorityChar_of_mem_portText _ hat) (by decide)

theorem readAuthority_append (hweb : IsWebScheme scheme) (htext : IsHostText text)
    (hread : readHost text = .ok h)
    (hport : ∀ p, port = some p → p ≤ 65535 ∧ defaultPort scheme ≠ some p) :
    readAuthority scheme (text ++ portText port) = .ok ⟨[], none, some h, port⟩ := by
  unfold readAuthority
  rw [splitUser_written htext port]
  simp only [readHostAndPort_append hweb htext hread hport]
  rfl

private theorem isAuthorityEnd_of_isAuthorityChar {c : Char} (hc : isAuthorityChar c = true) :
    isAuthorityEnd true c = false ∧ isEdge c = false ∧ isSlash true c = false := by
  simp only [isAuthorityChar, Bool.and_eq_true, decide_eq_true_eq, List.contains_eq_mem,
    Bool.not_eq_true', decide_eq_false_iff_not, List.mem_cons, not_or] at hc
  obtain ⟨hlow, hslash, hback, hquestion, hhash, -⟩ := hc
  refine ⟨?_, ?_, ?_⟩
  · simp [isAuthorityEnd, hslash, hback, hquestion, hhash]
  · simpa [isEdge] using hlow
  · simp [isSlash, hslash, hback]

private theorem IsWebScheme.isEdge_of_mem (hweb : IsWebScheme scheme) {c : Char} (hc : c ∈ scheme) :
    isEdge c = false := by
  have hchars : scheme.any isEdge = false := by rcases hweb with rfl | rfl <;> decide
  exact eq_false_of_ne_true (List.any_eq_false.1 hchars c hc)

theorem splitPath_eq_self {path : List Char} (hpath : IsPathText path) : splitPath path = (path, []) := by
  have htake : path.takeWhile (!isPathEnd ·) = path :=
    List.takeWhile_eq_self_iff.2 fun c hc => by simp [(hpath.chars c hc).1]
  simp [splitPath, htake]

/-- The authority ends where the path begins. -/
theorem takeWhile_written (htext : IsHostText text) (port : Option Nat) {path : List Char}
    (hpath : IsPathText path) :
    (text ++ portText port ++ path).takeWhile (!isAuthorityEnd true ·) = text ++ portText port := by
  rw [List.takeWhile_append_of_pos]
  · rcases hpath.slash with rfl | ⟨rest, rfl⟩
    · rw [List.takeWhile_nil, List.append_nil]
    · rw [List.takeWhile_cons_of_neg (by decide), List.append_nil]
  · intro c hc
    have hchar : isAuthorityChar c = true := by
      rcases List.mem_append.1 hc with hc | hc
      · exact htext.chars c hc
      · exact isAuthorityChar_of_mem_portText c hc
    simp [(isAuthorityEnd_of_isAuthorityChar hchar).1]

/-- Reading after the slashes takes host and port apart from the path, and finds nothing else. -/
theorem readAfterSlashes_append (hweb : IsWebScheme scheme) (htext : IsHostText text)
    (hread : readHost text = .ok h)
    (hport : ∀ p, port = some p → p ≤ 65535 ∧ defaultPort scheme ≠ some p) {path : List Char}
    (hpath : IsPathText path) :
    readAfterSlashes scheme (text ++ portText port ++ path) =
      .ok ⟨scheme, true, [], none, some h, port,
        .segments (readSegments scheme [] (dropSlash true path)), none, none⟩ := by
  have hauthority := takeWhile_written htext port hpath
  simp only [readAfterSlashes, hweb.isSpecial, hauthority, List.drop_left, splitPath_eq_self hpath,
    readAuthority_append hweb htext hread hport, Bool.not_true, Bool.and_false, Bool.false_eq_true,
    if_false]
  rfl

theorem hostAndPort_eq {u : Url} (htext : u.hostText = some text) :
    u.hostAndPort = text ++ portText u.port := by
  rw [hostAndPort, htext]
  rfl

theorem toList_canonical (u : Url) :
    (Link.canonical u).toList = u.scheme ++ ':' :: '/' :: '/' ::
      (u.hostAndPort ++ Text.dropTrailingSlashes u.path.text) := by
  simp [Link.canonical]

/-- The address of a web page is read after its scheme and two slashes. -/
theorem read_append (hweb : IsWebScheme scheme) {rest : List Char}
    (hchars : ∀ c ∈ rest, isEdge c = false) (hhead : ∀ c ∈ rest.head?, isSlash true c = false) :
    read none (scheme ++ ':' :: '/' :: '/' :: rest) = readAfterSlashes scheme rest := by
  have hsignificant : significant (scheme ++ ':' :: '/' :: '/' :: rest) =
      scheme ++ ':' :: '/' :: '/' :: rest := by
    refine significant_eq_self fun c hc => ?_
    simp only [List.mem_append, List.mem_cons] at hc
    rcases hc with hc | rfl | rfl | rfl | hc
    · exact hweb.isEdge_of_mem hc
    · decide
    · decide
    · decide
    · exact hchars c hc
  have hslashes : ('/' :: '/' :: rest).dropWhile (isSlash true) = rest := by
    rw [List.dropWhile_cons_of_pos (by decide), List.dropWhile_cons_of_pos (by decide)]
    cases rest with
    | nil => rfl
    | cons c rest => rw [List.dropWhile_cons_of_neg (by simp [hhead c rfl])]
  simp only [read, hsignificant, readScheme_append hweb]
  simp only [readWithScheme, hweb.not_isFileScheme, hweb.isSpecial, hslashes, Bool.false_eq_true, if_false,
    if_true]
  rw [if_neg (by simp)]

theorem read_written (hweb : IsWebScheme scheme) (htext : IsHostText text) (port : Option Nat)
    {path : List Char} (hpath : IsPathText path) :
    read none (scheme ++ ':' :: '/' :: '/' :: (text ++ portText port ++ path)) =
      readAfterSlashes scheme (text ++ portText port ++ path) := by
  have hchars : ∀ c ∈ text ++ portText port ++ path, isEdge c = false := by
    intro c hc
    simp only [List.mem_append] at hc
    rcases hc with (hc | hc) | hc
    · exact (isAuthorityEnd_of_isAuthorityChar (htext.chars c hc)).2.1
    · exact (isAuthorityEnd_of_isAuthorityChar (isAuthorityChar_of_mem_portText c hc)).2.1
    · exact (hpath.chars c hc).2
  have hhead : ∀ c ∈ (text ++ portText port ++ path).head?, isSlash true c = false := by
    obtain ⟨first, rest, rfl⟩ := List.exists_cons_of_ne_nil htext.nonempty
    intro c hc
    cases hc
    exact (isAuthorityEnd_of_isAuthorityChar (htext.chars first List.mem_cons_self)).2.2
  exact read_append hweb hchars hhead

theorem IsWebForm.isHostText {u : Url} (hform : u.IsWebForm) (htext : u.hostText = some text) :
    IsHostText text := by
  obtain ⟨s, host, hhost, hsome⟩ := hform.host
  rw [hostText, hsome, Option.map_some, Option.some.injEq] at htext
  exact htext ▸ isHostText_of_readHost hhost

theorem IsWebForm.isPathText {u : Url} (hform : u.IsWebForm) :
    IsPathText (Text.dropTrailingSlashes u.path.text) := by
  obtain ⟨segments, hpath, hsegments⟩ := hform.path
  rw [hpath]
  exact isPathText_dropTrailingSlashes hsegments

theorem IsWebForm.isSegmentChar {u : Url} (hform : u.IsWebForm) {c : Char}
    (hc : c ∈ Text.dropTrailingSlashes u.path.text) : c = '/' ∨ isSegmentChar c = true := by
  obtain ⟨segments, hpath, hsegments⟩ := hform.path
  rw [hpath] at hc
  exact isSegmentChar_of_mem_dropTrailingSlashes hsegments hc

/-- The form in which a web page is visited is read as its address: scheme, host and port are the same,
and the path is followed from its start. The host has to be read back from its text. -/
theorem ofText_canonical {u : Url} (hweb : u.isWeb = true) (hform : u.IsWebForm)
    (htext : u.hostText = some text) (hread : readHost text = .ok h) :
    Url.ofText (Link.canonical u) =
      .ok ⟨u.scheme, true, [], none, some h, u.port, .segments (readSegments u.scheme []
        (dropSlash true (Text.dropTrailingSlashes u.path.text))), none, none⟩ := by
  rw [isWeb_iff] at hweb
  rw [Url.ofText, toList_canonical, hostAndPort_eq htext,
    read_written hweb (hform.isHostText htext) u.port hform.isPathText]
  exact readAfterSlashes_append hweb (hform.isHostText htext) hread hform.port hform.isPathText

/-- If the form in which a web page is visited is read at all, its host is read from its text. -/
theorem exists_readHost_of_ofText_canonical {u v : Url} (hweb : u.isWeb = true) (hform : u.IsWebForm)
    (htext : u.hostText = some text) (h : Url.ofText (Link.canonical u) = .ok v) :
    ∃ host, readHost text = .ok host := by
  rw [isWeb_iff] at hweb
  have hhost := hform.isHostText htext
  rw [Url.ofText, toList_canonical, hostAndPort_eq htext,
    read_written hweb hhost u.port hform.isPathText] at h
  obtain ⟨a, ha, -, -⟩ := exists_readAuthority h
  rw [hweb.isSpecial, takeWhile_written hhost u.port hform.isPathText] at ha
  have hplain := readHostAndPort_of_readAuthority_of_splitUser (splitUser_written hhost u.port) ha
  obtain ⟨⟨host, hread, -⟩, -⟩ := readHostAndPort_eq_ok hweb hplain
  rw [splitHost_written hhost] at hread
  exact ⟨host, hread⟩

/-- An address in the form in which a web page is visited names no user and no part of the page. -/
theorem bare_of_ofText_canonical {u v : Url} (hweb : u.isWeb = true) (hform : u.IsWebForm)
    (h : Url.ofText (Link.canonical u) = .ok v) :
    v.isWeb = true ∧ v.username = [] ∧ v.password = none ∧ v.fragment = none := by
  obtain ⟨s, host, -, hsome⟩ := hform.host
  have htext : u.hostText = some host.text := by rw [hostText, hsome, Option.map_some]
  obtain ⟨host', hread⟩ := exists_readHost_of_ofText_canonical hweb hform htext h
  rw [ofText_canonical hweb hform htext hread, Except.ok.injEq] at h
  subst h
  exact ⟨hweb, rfl, rfl, rfl⟩

end SiteTech.Url

namespace SiteTech.Link

/-- A link that is followed leads to a web page with the host and the port of the page it stands on. -/
theorem exists_target_of_resolve {link followed : String} {page : Url}
    (h : resolve link page = some followed) :
    ∃ target, page.join (Text.trimList link.toList) = .ok target ∧ target.isWeb = true ∧
      target.hostText = page.hostText ∧ target.port = page.port ∧ followed = canonical target := by
  unfold resolve at h
  dsimp only at h
  split at h
  · cases h
  split at h
  · cases h
  rename_i target htarget
  split at h
  · rename_i hsite
    cases h
    simp only [sameSite, Bool.and_eq_true, beq_iff_eq] at hsite
    obtain ⟨hweb, hhost, hport⟩ := hsite
    exact ⟨target, htarget, hweb, hhost, hport, rfl⟩
  · cases h

end SiteTech.Link
