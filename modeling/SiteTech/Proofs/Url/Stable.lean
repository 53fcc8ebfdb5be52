import SiteTech.Proofs.Url.LowerCase

namespace SiteTech.Url

theorem isPlainName_showIpv4 (a : Nat) : IsPlainName (showIpv4 a) := by
  have hdigit : ∀ d < 10, d.digitChar.toNat < 128 ∧ d.digitChar.toLower = d.digitChar ∧
      isForbidden d.digitChar = false ∧ 'x' ≠ d.digitChar := by
    decide
  have hchar : ∀ c ∈ showIpv4 a, c.toNat < 128 ∧ c.toLower = c ∧ isForbidden c = false := by
    intro c hc
    rcases Text.eq_or_exists_digitChar_of_mem_join (by decide) hc with rfl | ⟨d, hd, rfl⟩
    · decide
    · obtain ⟨hascii, hlower, hallowed, -⟩ := hdigit d hd
      exact ⟨hascii, hlower, hallowed⟩
  refine ⟨fun c hc => (hchar c hc).1, fun c hc => (hchar c hc).2.1, fun c hc => (hchar c hc).2.2, ?_⟩
  intro label hlabel
  rw [splitOn_showIpv4] at hlabel
  obtain ⟨n, -, rfl⟩ := List.mem_map.1 hlabel
  obtain ⟨c, rest, hwritten⟩ : ∃ c rest, Text.decimal n = c :: rest :=
    List.exists_cons_of_ne_nil Nat.toDigits_ne_nil
  obtain ⟨d, hd, rfl⟩ := Text.exists_digitChar_of_mem_toDigits (by decide) (hwritten ▸ List.mem_cons_self)
  have hother : ('x' == d.digitChar) = false := by
    simp [(hdigit d hd).2.2.2]
  rw [hwritten, asciiMark, List.isPrefixOf, hother, Bool.false_and]

theorem eq_of_readHost_domain {s name : List Char} {h : Host} (hread : readHost s = .ok (.domain name))
    (hagain : readHost name = .ok h) : h = .domain name := by
  obtain ⟨⟨bytes, hname⟩, hnumber⟩ := domain_of_readHost hread
  have hchars := ascii_domainToAscii hname
  have hallowed := not_isForbidden_domainToAscii hname
  have hpercent : '%' ∉ name := fun hmem => absurd (hallowed _ hmem) (by decide)
  have hlower : Text.asciiLower name = name := asciiLower_eq_self fun c hc => (hchars c hc).2
  unfold readHost at hagain
  split at hagain
  · exact absurd (hallowed '[' List.mem_cons_self) (by decide)
  split at hagain
  · cases hagain
  · cases hagain
  · rename_i again hsame
    have hascii : ∀ c ∈ name, c.toNat < 128 := fun c hc => (hchars c hc).1
    rw [eq_asciiLower_of_domainToAscii hascii hpercent hsame, hlower, hnumber] at hagain
    cases hagain
    rfl

/-- A host that is written without brackets and can be read back is read back as it is. -/
theorem text_of_readHost_text {s : List Char} {h h' : Host} (hread : readHost s = .ok h)
    (hopen : h.text.head? ≠ some '[') (hagain : readHost h.text = .ok h') : h'.text = h.text := by
  cases h with
  | domain name => rw [eq_of_readHost_domain hread hagain]
  | ipv4 a =>
    obtain ⟨h'', hback, htext⟩ := (isPlainName_showIpv4 a).readsBack s (.ipv4 a) hread rfl
    rw [Host.text, hback] at hagain
    cases hagain
    exact htext
  | ipv6 pieces => exact absurd rfl hopen

variable {scheme : List Char}

theorem isStep_readSegments (hweb : IsWebScheme scheme) {start : List (List Char)} {s : List Char}
    (hstart : ∀ segment ∈ start, IsStep segment) :
    ∀ segment ∈ readSegments scheme start s, IsStep segment := by
  intro segment hsegment
  simp only [readSegments, hweb.not_isFileScheme, Bool.false_eq_true, if_false, List.mem_reverse] at hsegment
  rcases mem_of_mem_follow hsegment with h | ⟨-, h⟩ | rfl
  · exact hstart segment (List.mem_reverse.1 h)
  · exact h
  · exact isStep_nil

/-- Slashes at the end of a path are those of empty segments. -/
theorem dropTrailingSlashes_text {segments : List (List Char)} (h : ∀ segment ∈ segments, '/' ∉ segment) :
    Text.dropTrailingSlashes (Path.segments segments).text =
      (Path.segments (Text.dropEndWhile List.isEmpty segments)).text := by
  induction segments using List.reverseRecOn with
  | nil => rfl
  | append_singleton segments last ih =>
    rw [List.forall_mem_append, List.forall_mem_singleton] at h
    rw [Text.dropEndWhile_concat, Path.text, List.flatMap_append, List.flatMap_singleton, ← Path.text,
      Text.dropTrailingSlashes]
    rcases List.eq_nil_or_concat' last with rfl | ⟨front, c, rfl⟩
    · rw [Text.dropEndWhile_concat]
      exact ih h.1
    · have hc : (c == '/') = false := beq_eq_false_iff_ne.2 fun heq => h.2 (by simp [heq])
      rw [← List.cons_append, ← List.append_assoc, Text.dropEndWhile_concat, hc]
      simp [Path.text]

variable {segments : List (List Char)}

/-- A path that is read from the form in which it is visited is written in the same form, up to slashes at
its end. -/
theorem dropTrailingSlashes_readSegments (hweb : IsWebScheme scheme)
    (hchars : ∀ segment ∈ segments, ∀ c ∈ segment, isSegmentChar c = true)
    (hsteps : ∀ segment ∈ segments, IsStep segment) :
    Text.dropTrailingSlashes (Path.segments (readSegments scheme []
        (dropSlash true (Text.dropTrailingSlashes (Path.segments segments).text)))).text =
      Text.dropTrailingSlashes (Path.segments segments).text := by
  have hslash : ∀ segment ∈ segments, '/' ∉ segment := by
    intro segment hsegment hmem
    exact absurd (hchars segment hsegment _ hmem) (by decide)
  have hagain : Text.dropTrailingSlashes (Text.dropTrailingSlashes (Path.segments segments).text) =
      Text.dropTrailingSlashes (Path.segments segments).text := List.rdropWhile_idempotent _ _
  obtain ⟨dropped, hkept⟩ := Text.dropEndWhile_prefix List.isEmpty segments
  rw [dropTrailingSlashes_text hslash] at hagain ⊢
  generalize Text.dropEndWhile List.isEmpty segments = kept at hkept hagain ⊢
  have hsub : kept ⊆ segments := hkept ▸ List.subset_append_left _ _
  cases kept with
  | nil =>
    -- Nothing is left of the path, but an address without a path has one empty segment.
    have hnothing : dropSlash true (Path.segments []).text = [] := rfl
    rw [hnothing, readSegments_nil hweb]
    rfl
  | cons first rest =>
    rw [readSegments_text hweb (fun segment hsegment => hchars segment (hsub hsegment))
      fun segment hsegment => hsteps segment (hsub hsegment), hagain]

/-- The segments of the path of an address lead somewhere. -/
def IsSettled (u : Url) : Prop := ∀ segment ∈ u.path.segmentList, IsStep segment

theorem readAfterSlashes_isSettled {s : List Char} {u : Url} (h : readAfterSlashes scheme s = .ok u)
    (hweb : u.isWeb = true) : u.IsSettled := by
  obtain ⟨hscheme, hpath⟩ := path_of_readAfterSlashes h
  rw [isWeb_iff, hscheme] at hweb
  rcases hpath with hpath | ⟨t, hpath⟩
  · rw [IsSettled, hpath]
    exact List.forall_mem_nil _
  · rw [IsSettled, hpath]
    exact isStep_readSegments hweb (List.forall_mem_nil _)

theorem read_isSettled {base : Option Url} {text : List Char} {u : Url}
    (hbase : ∀ b, base = some b → b.isWeb = true → b.IsSettled) (h : read base text = .ok u)
    (hweb : u.isWeb = true) : u.IsSettled := by
  rcases read_eq_ok h hweb with ⟨scheme, t, h⟩ | ⟨b, t, hb, h⟩
  · exact readAfterSlashes_isSettled h hweb
  rcases readRelative_eq_ok h with ⟨t, h⟩ | ⟨hscheme, -, -, hpath⟩
  · exact readAfterSlashes_isSettled h hweb
  · rw [isWeb_iff, hscheme] at hweb
    have hsettled := hbase b hb (isWeb_iff.2 hweb)
    rcases hpath with hpath | ⟨start, t, hstart, hpath⟩
    · rwa [IsSettled, hpath]
    · rw [IsSettled, hpath]
      exact isStep_readSegments hweb fun segment hmem => hsettled segment (hstart hmem)

theorem isSettled_of_ofText {text : String} {u : Url} (h : ofText text = .ok u) (hweb : u.isWeb = true) :
    u.IsSettled :=
  read_isSettled (by simp) h hweb

theorem isSettled_of_join {address : String} {page target : Url} {text : List Char}
    (haddress : ofText address = .ok page) (hjoin : page.join text = .ok target)
    (hweb : target.isWeb = true) : target.IsSettled := by
  refine read_isSettled (fun base hbase hbaseWeb => ?_) hjoin hweb
  cases hbase
  exact isSettled_of_ofText haddress hbaseWeb

theorem chars_bare {h : Host} {port : Option Nat} (segments : List (List Char)) :
    chars ⟨scheme, true, [], none, some h, port, .segments segments, none, none⟩ =
      scheme ++ ':' :: '/' :: '/' :: (h.text ++ portText port ++ (Path.segments segments).text) := by
  have hguard : pathGuard ⟨scheme, true, [], none, some h, port, .segments segments, none, none⟩ = [] := by
    unfold pathGuard
    split <;> rfl
  rw [chars, origin, afterOrigin, hguard, hostAndPort_eq rfl]
  simp [userInfo]

/-- Host and port end with another character than a slash. -/
theorem exists_append_portText {text : List Char} (htext : IsHostText text) (port : Option Nat) :
    ∃ front c, text ++ portText port = front ++ [c] ∧ (c == '/') = false := by
  rcases List.eq_nil_or_concat' (text ++ portText port) with hnil | ⟨front, c, hlast⟩
  · exact absurd (List.append_eq_nil_iff.1 hnil).1 htext.nonempty
  · refine ⟨front, c, hlast, beq_eq_false_iff_ne.2 ?_⟩
    rintro rfl
    have hmem : '/' ∈ text ++ portText port := by simp [hlast]
    rcases List.mem_append.1 hmem with hmem | hmem
    · exact absurd (htext.chars _ hmem) (by decide)
    · exact absurd (isAuthorityChar_of_mem_portText _ hmem) (by decide)

/-- The form in which a web page is visited is that of the address that is read from it, if its host is not
written in brackets. -/
theorem dropTrailingSlashes_chars_of_ofText_canonical {u v : Url} (hweb : u.isWeb = true)
    (hform : u.IsWebForm) (hsettled : u.IsSettled) (hopen : ∀ text ∈ u.hostText, text.head? ≠ some '[')
    (h : ofText (Link.canonical u) = .ok v) :
    Text.dropTrailingSlashes v.chars = (Link.canonical u).toList := by
  obtain ⟨s, host, hhost, hsome⟩ := hform.host
  obtain ⟨segments, hpath, hchars⟩ := hform.path
  have htext : u.hostText = some host.text := by rw [hostText, hsome, Option.map_some]
  obtain ⟨host', hagain⟩ := exists_readHost_of_ofText_canonical hweb hform htext h
  have hsame := text_of_readHost_text hhost (hopen _ htext) hagain
  have hsteps : ∀ segment ∈ segments, IsStep segment := by rwa [IsSettled, hpath] at hsettled
  rw [ofText_canonical hweb hform htext hagain, Except.ok.injEq] at h
  subst h
  obtain ⟨front, c, hend, hc⟩ := exists_append_portText (hform.isHostText htext) u.port
  have hwritten (path : List Char) : u.scheme ++ ':' :: '/' :: '/' :: (host.text ++ portText u.port ++ path) =
      (u.scheme ++ ':' :: '/' :: '/' :: front) ++ c :: path := by
    simp [hend]
  rw [chars_bare, hsame, toList_canonical, hostAndPort_eq htext, hwritten, hwritten,
    Text.dropTrailingSlashes, Text.dropEndWhile_append (p := (· == '/')) hc, hpath]
  exact congrArg _ (congrArg _ (dropTrailingSlashes_readSegments (isWeb_iff.1 hweb) hchars hsteps))

end SiteTech.Url
