import SiteTech.Proofs.Crawl.Address
import SiteTech.Proofs.Crawl.Confinement

namespace SiteTech

namespace Address

private theorem not_isRestChar_edge : ∀ n ≤ 0x20, isRestChar (Char.ofNat n) = false := by decide

theorem toLower_isHostChar {c : Char} (hc : c.toNat < 128) (hhost : isHostChar c = true) :
    isHostChar c.toLower = true :=
  Text.of_ascii (P := fun c => isHostChar c = true → isHostChar c.toLower = true) (by decide) hc hhost

theorem toLower_isRestChar {c : Char} (hc : c.toNat < 128) (hrest : isRestChar c = true) :
    isRestChar c.toLower = true :=
  Text.of_ascii (P := fun c => isRestChar c = true → isRestChar c.toLower = true) (by decide) hc hrest

theorem inUserInfo_of_isHostChar {c : Char} (hc : c.toNat < 128) (hhost : isHostChar c = true) :
    Url.inUserInfo c = false :=
  Text.of_ascii (P := fun c => isHostChar c = true → Url.inUserInfo c = false) (by decide) hc hhost

theorem isEdge_of_isRestChar {c : Char} (hc : isRestChar c = true) : Url.isEdge c = false := by
  rw [Url.isEdge, decide_eq_false_iff_not]
  intro hlow
  have hnone := not_isRestChar_edge c.toNat hlow
  rw [Char.ofNat_toNat, hc] at hnone
  cases hnone

theorem ne_of_isHostChar {c d : Char} (hc : isHostChar c = true) (hd : isHostChar d = false) : c ≠ d := by
  rintro rfl
  rw [hc] at hd
  cases hd

theorem DotAt.asciiLower {s : List Char} {i : Nat} (hascii : ∀ c ∈ s, c.toNat < 128) (h : DotAt s i) :
    DotAt (Text.asciiLower s) i := by
  obtain ⟨front, c, rest, rfl, hlength, hne, hfront, hc⟩ := h
  refine ⟨Text.asciiLower front, c.toLower, Text.asciiLower rest, by simp [Text.asciiLower], ?_, ?_, ?_, ?_⟩
  · rw [Text.asciiLower, List.length_map, hlength]
  · simpa [Text.asciiLower] using hne
  · intro d hd
    obtain ⟨e, he, rfl⟩ := List.mem_map.1 hd
    exact toLower_isHostChar (hascii e (by simp [he])) (hfront e he)
  · exact toLower_isHostChar (hascii c (by simp)) hc

private theorem isHostChar_digitChar : ∀ d < 10, isHostChar d.digitChar = true := by decide

theorem isHostChar_of_mem_decimal {n : Nat} {c : Char} (hc : c ∈ Text.decimal n) :
    isHostChar c = true := by
  obtain ⟨d, hd, rfl⟩ := Text.exists_digitChar_of_mem_toDigits (by decide) hc
  exact isHostChar_digitChar d hd

theorem isHostChar_of_mem_showIpv4 {a : Nat} {c : Char} (hc : c ∈ Url.showIpv4 a) : isHostChar c = true := by
  rcases Text.eq_or_exists_digitChar_of_mem_join (by decide : 1 < 10) hc with rfl | ⟨d, hd, rfl⟩
  · rfl
  · exact isHostChar_digitChar d hd

/-- An address of four bytes has a dot after its first byte. -/
theorem exists_dotAt_showIpv4 (a : Nat) : ∃ i, DotAt (Url.showIpv4 a) i := by
  have hne (n : Nat) : Text.decimal n ≠ [] := Nat.toDigits_ne_nil
  obtain ⟨c, second, hsecond⟩ := List.exists_cons_of_ne_nil (hne ((a >>> 16) % 256))
  have hc : c ∈ Text.decimal ((a >>> 16) % 256) := hsecond ▸ List.mem_cons_self
  refine ⟨_, Text.decimal ((a >>> 24) % 256), c, second ++ ['.'] ++
    (Text.decimal ((a >>> 8) % 256) ++ ['.'] ++ Text.decimal (a % 256)), ?_, rfl, hne _, ?_, ?_⟩
  · simp only [Url.showIpv4, List.map_cons, List.map_nil, Text.join, hsecond, List.append_assoc,
      List.cons_append, List.nil_append]
  · exact fun d hd => isHostChar_of_mem_decimal hd
  · exact isHostChar_of_mem_decimal hc

private theorem isAuthorityEnd_of_isHostChar {c : Char} (hc : isHostChar c = true) :
    Url.isAuthorityEnd true c = false := by
  have hslash : c ≠ '/' := ne_of_isHostChar hc (by decide)
  have hquestion : c ≠ '?' := ne_of_isHostChar hc (by decide)
  have hhash : c ≠ '#' := ne_of_isHostChar hc (by decide)
  have hback : c ≠ '\\' := ne_of_isHostChar hc (by decide)
  simp [Url.isAuthorityEnd, hslash, hquestion, hhash, hback]

theorem isSlash_of_isHostChar {c : Char} (hc : isHostChar c = true) : Url.isSlash true c = false := by
  have hslash : c ≠ '/' := ne_of_isHostChar hc (by decide)
  have hback : c ≠ '\\' := ne_of_isHostChar hc (by decide)
  simp [Url.isSlash, hslash, hback]

theorem DotAt.authority {s : List Char} {i : Nat} (h : DotAt s i) :
    DotAt (s.takeWhile (!Url.isAuthorityEnd true ·)) i := by
  obtain ⟨front, c, rest, rfl, hlength, hne, hfront, hc⟩ := h
  refine ⟨front, c, rest.takeWhile (!Url.isAuthorityEnd true ·), ?_, hlength, hne, hfront, hc⟩
  have hinside {d : Char} (hd : isHostChar d = true) : (!Url.isAuthorityEnd true d) = true := by
    rw [isAuthorityEnd_of_isHostChar hd, Bool.not_false]
  rw [List.takeWhile_append_of_pos fun d hd => hinside (hfront d hd),
    List.takeWhile_cons_of_pos (by decide), List.takeWhile_cons_of_pos (by exact hinside hc)]

theorem DotAt.splitHost {s : List Char} {i : Nat} (h : DotAt s i) :
    DotAt (Url.splitHost false s).1 i := by
  obtain ⟨front, c, rest, rfl, hlength, hne, hplain⟩ := dotAt_iff.1 h
  have habsent (d : Char) (hd : isHostChar d = false) : d ∉ front ++ ['.', c] :=
    fun hmem => ne_of_isHostChar (hplain d hmem) hd rfl
  have hcut := Url.splitHost_append (fun _ : false = false => habsent ':' (by decide))
    (fun _ => habsent '[' (by decide)) (habsent ']' (by decide)) rest
  rw [hcut]
  exact dotAt_iff.2 ⟨front, c, (Url.splitHost false rest).1, rfl, hlength, hne, hplain⟩

/-- A host that is written in ASCII with such a dot is read as one with such a dot. Its characters stay
those of addresses. -/
theorem DotAt.readHost {s : List Char} {i : Nat} (hdot : DotAt s i) (hascii : ∀ c ∈ s, c.toNat < 128)
    (hchars : ∀ c ∈ s, isRestChar c = true) {h : Url.Host} (hread : Url.readHost s = .ok h) :
    (∀ c ∈ h.text, isRestChar c = true) ∧ ∃ i, DotAt h.text i := by
  have hpercent : '%' ∉ s := by
    intro hmem
    have hc := hchars '%' hmem
    exact absurd hc (by decide)
  have hopen : s.head? ≠ some '[' := by
    obtain ⟨front, c, rest, rfl, -, hne, hfront, -⟩ := hdot
    obtain ⟨first, front, rfl⟩ := List.exists_cons_of_ne_nil hne
    intro heq
    rw [List.cons_append, List.head?_cons, Option.some.injEq] at heq
    exact ne_of_isHostChar (hfront first List.mem_cons_self) (by decide) heq
  rcases Url.text_of_readHost_ascii hascii hpercent hopen hread with htext | ⟨a, htext⟩
  · rw [htext]
    refine ⟨fun c hc => ?_, i, hdot.asciiLower hascii⟩
    obtain ⟨d, hd, rfl⟩ := List.mem_map.1 hc
    exact toLower_isRestChar (hascii d hd) (hchars d hd)
  · rw [htext]
    exact ⟨fun c hc => isRestChar_of_isHostChar (isHostChar_of_mem_showIpv4 hc), exists_dotAt_showIpv4 a⟩

theorem isHostChar_of_accepts {s : List Char} (hs : accepts s = true) :
    ∀ c ∈ s.head?, isHostChar c = true := by
  obtain ⟨-, i, ⟨front, c, rest, rfl, -, hne, hfront, -⟩, -⟩ := accepts_iff.1 hs
  obtain ⟨first, front, rfl⟩ := List.exists_cons_of_ne_nil hne
  intro d hd
  cases hd
  exact hfront first List.mem_cons_self

/-- A scheme of a web page is dropped with the two slashes after it, and nothing else is. -/
theorem dropScheme_cases (s : List Char) :
    (∃ scheme, Url.IsWebScheme scheme ∧ s = scheme ++ ':' :: '/' :: '/' :: dropScheme s) ∨
      dropScheme s = s := by
  rw [dropScheme]
  split
  · rename_i hprefix
    obtain ⟨rest, rfl⟩ := List.isPrefixOf_iff_prefix.1 hprefix
    exact .inl ⟨"http".toList, .inl rfl, rfl⟩
  · split
    · rename_i hprefix
      obtain ⟨rest, rfl⟩ := List.isPrefixOf_iff_prefix.1 hprefix
      exact .inl ⟨"https".toList, .inr rfl, rfl⟩
    · exact .inr rfl

theorem dropScheme_append {scheme : List Char} (hweb : Url.IsWebScheme scheme) (s : List Char) :
    dropScheme (scheme ++ ':' :: '/' :: '/' :: s) = s := by
  rcases hweb with rfl | rfl <;> rfl

end Address

namespace Url

/-- The host of an address has a dot between characters of hosts. -/
def DotAt (u : Url) (i : Nat) : Prop := ∃ host, u.hostText = some host ∧ Address.DotAt host i

/-- The host of an address only has characters of addresses. -/
def HostPasses (u : Url) : Prop :=
  ∀ host, u.hostText = some host → ∀ c ∈ host, Address.isRestChar c = true

/-- A segment of a path has three kinds of characters that addresses do not have. -/
theorem isRestChar_of_isSegmentChar {c : Char} (hc : isSegmentChar c = true) (hpercent : c ≠ '%')
    (hcaret : c ≠ '^') (hbar : c ≠ '|') : Address.isRestChar c = true := by
  have hascii : c.toNat < 128 := by
    simp only [isSegmentChar, inPath, inFragment, inControls, Bool.and_eq_true, Bool.not_eq_true',
      Bool.or_eq_false_iff, decide_eq_false_iff_not] at hc
    omega
  have hall : ∀ n < 128, isSegmentChar (Char.ofNat n) = true → Char.ofNat n ≠ '%' → Char.ofNat n ≠ '^' →
      Char.ofNat n ≠ '|' → Address.isRestChar (Char.ofNat n) = true := by decide
  exact Text.of_ascii (P := fun c => isSegmentChar c = true → c ≠ '%' → c ≠ '^' → c ≠ '|' →
    Address.isRestChar c = true) hall hascii hc hpercent hcaret hbar

/-- What has no scheme of a web page in front and passes for an address is not read as one of a web
page: a dot comes before any colon. -/
theorem not_isWeb_of_accepts {s : List Char} {u : Url} (hs : Address.accepts s = true)
    (hread : read none s = .ok u) : u.isWeb = false := by
  obtain ⟨hchars, i, ⟨front, c, rest, rfl, -, -, hfront, -⟩, -⟩ := Address.accepts_iff.1 hs
  have hsignificant : significant (front ++ '.' :: c :: rest) = front ++ '.' :: c :: rest :=
    significant_eq_self fun c hc => Address.isEdge_of_isRestChar (hchars c hc)
  rw [← Bool.not_eq_true, isWeb_iff]
  intro hweb
  rw [read] at hread
  simp only [hsignificant] at hread
  split at hread
  · rename_i scheme after hscheme
    rw [readWithScheme_scheme hread] at hweb
    obtain ⟨name, hname, rfl⟩ := eq_append_of_readScheme hscheme
    have hdot : '.' ∉ name := by
      intro hmem
      have hlower : '.' ∈ Text.asciiLower name := List.mem_map.2 ⟨'.', hmem, rfl⟩
      rcases hweb with hweb | hweb
      · rw [hweb] at hlower
        exact absurd hlower (by decide)
      · rw [hweb] at hlower
        exact absurd hlower (by decide)
    -- The scheme would have to hold the dot, or the host the colon.
    rcases List.append_eq_append_iff.1 hname with ⟨more, rfl, hmore⟩ | ⟨more, rfl, hmore⟩
    · cases more with
      | nil => cases hmore
      | cons d more =>
        rw [List.cons_append, List.cons.injEq] at hmore
        obtain ⟨rfl, -⟩ := hmore
        exact hdot (by simp)
    · cases more with
      | nil => cases hmore
      | cons d more =>
        rw [List.cons_append, List.cons.injEq] at hmore
        obtain ⟨rfl, -⟩ := hmore
        exact absurd (hfront ':' (by simp)) (by decide)
  · cases hread

/-- What is read after two slashes and passes for an address is read as one whose host has such a dot and
only characters of addresses, if its authority is ASCII and names no user. -/
theorem hostPasses_of_readAfterSlashes {scheme s : List Char} {u : Url} (hweb : IsWebScheme scheme)
    (hs : Address.accepts s = true) (hread : readAfterSlashes scheme s = .ok u)
    (huser : u.username = []) (hascii : ∀ c ∈ s.takeWhile (!isAuthorityEnd true ·), c.toNat < 128) :
    u.HostPasses ∧ ∃ i, u.DotAt i := by
  obtain ⟨hchars, i, hdot, -⟩ := Address.accepts_iff.1 hs
  obtain ⟨a, ha, husername, hhost⟩ := exists_readAuthority hread
  rw [hweb.isSpecial] at ha
  have hauthority := hdot.authority
  have hsubset := (List.takeWhile_sublist (!isAuthorityEnd true ·) (l := s)).subset
  generalize s.takeWhile (!isAuthorityEnd true ·) = authority at ha hascii hauthority hsubset
  have hplain : readHostAndPort scheme authority = .ok (a.host, a.port) := by
    obtain ⟨front, c, rest, rfl, -, hne, hfront, -⟩ := hauthority
    obtain ⟨first, front, rfl⟩ := List.exists_cons_of_ne_nil hne
    refine readHostAndPort_of_readAuthority ?_ ha (husername ▸ huser)
    exact Address.inUserInfo_of_isHostChar (hascii first (by simp)) (hfront first (by simp))
  obtain ⟨⟨host, hreadHost, hsome⟩, -⟩ := readHostAndPort_eq_ok hweb hplain
  have hfront : ∀ c ∈ (splitHost false authority).1, c ∈ authority := by
    intro c hc
    rw [← append_splitHost false authority]
    exact List.mem_append_left _ hc
  obtain ⟨hpasses, j, hj⟩ := hauthority.splitHost.readHost (fun c hc => hascii c (hfront c hc))
    (fun c hc => hchars c (hsubset (hfront c hc))) hreadHost
  have htext : u.hostText = some host.text := by rw [hostText, hhost, hsome, Option.map_some]
  refine ⟨fun text heq => ?_, j, host.text, htext, hj⟩
  rw [htext] at heq
  cases heq
  exact hpasses

/-- The host of a web page whose address passes for one has such a dot and only characters of addresses,
if the authority is ASCII and names no user. -/
theorem hostPasses_of_isValid {address : String} {u : Url} (h : ofText address = .ok u)
    (hvalid : Address.isValid address = true) (hweb : u.isWeb = true) (huser : u.username = [])
    (hascii : ∀ c ∈ (Address.dropScheme address.toList).takeWhile (!isAuthorityEnd true ·),
      c.toNat < 128) : u.HostPasses ∧ ∃ i, u.DotAt i := by
  rw [Address.isValid] at hvalid
  rw [ofText] at h
  rcases Address.dropScheme_cases address.toList with ⟨scheme, hscheme, hwritten⟩ | hnone
  · have hedge : ∀ c ∈ Address.dropScheme address.toList, isEdge c = false :=
      fun c hc => Address.isEdge_of_isRestChar ((Address.accepts_iff.1 hvalid).1 c hc)
    have hslash : ∀ c ∈ (Address.dropScheme address.toList).head?, isSlash true c = false :=
      fun c hc => Address.isSlash_of_isHostChar (Address.isHostChar_of_accepts hvalid c hc)
    rw [hwritten, read_append hscheme hedge hslash] at h
    exact hostPasses_of_readAfterSlashes hscheme hvalid h huser hascii
  · rw [hnone] at hvalid
    rw [not_isWeb_of_accepts hvalid h] at hweb
    cases hweb

end Url

namespace Link

private theorem isHostChar_head_portText {port : Option Nat} {path : List Char} (hpath : Url.IsPathText path) :
    ∀ c ∈ (Url.portText port ++ path).head?, Address.isHostChar c = false := by
  intro c hc
  cases port with
  | some p =>
    cases hc
    rfl
  | none =>
    rcases hpath.slash with rfl | ⟨rest, rfl⟩
    · cases hc
    · cases hc
      rfl

private theorem isRestChar_of_mem_portText {port : Option Nat} {c : Char} (hc : c ∈ Url.portText port) :
    Address.isRestChar c = true := by
  cases port with
  | none => cases hc
  | some p =>
    rcases List.mem_cons.1 hc with rfl | hc
    · rfl
    · exact Address.isRestChar_of_isHostChar (Address.isHostChar_of_mem_decimal hc)

/-- Behind its host, a web page is written with characters of addresses, except for those three. -/
private theorem isRestChar_of_mem_written {target : Url} (hform : target.IsWebForm) {c : Char}
    (hc : c ∈ Url.portText target.port ++ Text.dropTrailingSlashes target.path.text) (hpercent : c ≠ '%')
    (hcaret : c ≠ '^') (hbar : c ≠ '|') : Address.isRestChar c = true := by
  rcases List.mem_append.1 hc with hc | hc
  · exact isRestChar_of_mem_portText hc
  · rcases hform.isSegmentChar hc with rfl | hsegment
    · rfl
    · exact Url.isRestChar_of_isSegmentChar hsegment hpercent hcaret hbar

/-- A link that is followed passes for an address exactly if its path has no caret and no bar, and at
least two characters come after a dot between characters of the host of its page. That there is no percent
sign is taken for granted. -/
theorem isValid_iff_of_resolve {address link followed : String} {page : Url}
    (haddress : Url.ofText address = .ok page) (hhost : page.HostPasses)
    (h : resolve link page = some followed) (hpercent : '%' ∉ Address.dropScheme followed.toList) :
    Address.isValid followed = true ↔
      ('^' ∉ Address.dropScheme followed.toList ∧ '|' ∉ Address.dropScheme followed.toList) ∧
        ∃ i, page.DotAt i ∧ i + 3 ≤ (Address.dropScheme followed.toList).length := by
  obtain ⟨target, htarget, hweb, hsame, -, rfl⟩ := exists_target_of_resolve h
  have hform : target.IsWebForm := Url.isWebForm_of_join haddress htarget hweb
  obtain ⟨s, host, -, hsome⟩ := hform.host
  have htext : target.hostText = some host.text := by rw [Url.hostText, hsome, Option.map_some]
  have hpage : page.hostText = some host.text := hsame.symm.trans htext
  have hdrop : Address.dropScheme (canonical target).toList =
      host.text ++ (Url.portText target.port ++ Text.dropTrailingSlashes target.path.text) := by
    rw [Url.toList_canonical, Address.dropScheme_append (Url.isWeb_iff.1 hweb), Url.hostAndPort_eq htext,
      List.append_assoc]
  rw [hdrop] at hpercent
  rw [Address.isValid, hdrop, Address.accepts_iff]
  constructor
  · -- A dot that is found in the link is one of its host: a port or a path begins with no character of hosts.
    rintro ⟨hchars, i, hdot, hlong⟩
    have hno (c : Char) (hc : Address.isRestChar c = false) :
        c ∉ host.text ++ (Url.portText target.port ++ Text.dropTrailingSlashes target.path.text) := by
      intro hmem
      rw [hchars c hmem] at hc
      cases hc
    have hinHost := hdot.of_append (isHostChar_head_portText hform.isPathText)
    exact ⟨⟨hno '^' (by decide), hno '|' (by decide)⟩, i, ⟨host.text, hpage, hinHost⟩, hlong⟩
  · rintro ⟨⟨hcaret, hbar⟩, i, ⟨text, htext', hdot⟩, hlong⟩
    rw [hpage] at htext'
    cases htext'
    refine ⟨fun c hc => ?_, i, hdot.append _, hlong⟩
    rcases List.mem_append.1 hc with hinHost | hbehind
    · exact hhost _ hpage c hinHost
    · exact isRestChar_of_mem_written hform hbehind (fun heq => hpercent (heq ▸ hc))
        (fun heq => hcaret (heq ▸ hc)) fun heq => hbar (heq ▸ hc)

/-- What becomes of the links of a page whose address passes for one. Its host, which is that of the link,
has a dot and only characters of addresses, unless the address names a user or has an authority beyond
ASCII. A link without percent signs then passes for an address exactly if its path has no caret and no bar
and at least two characters come after such a dot. -/
theorem resolve_keeps_isValid {address link followed : String} {page : Url}
    (haddress : Url.ofText address = .ok page) (hvalid : Address.isValid address = true)
    (h : resolve link page = some followed) :
    (page.isWeb = true → page.username = [] →
      (∀ c ∈ (Address.dropScheme address.toList).takeWhile (!Url.isAuthorityEnd true ·), c.toNat < 128) →
      page.HostPasses ∧ ∃ i, page.DotAt i) ∧
    (page.HostPasses → '%' ∉ Address.dropScheme followed.toList →
      (Address.isValid followed = true ↔
        ('^' ∉ Address.dropScheme followed.toList ∧ '|' ∉ Address.dropScheme followed.toList) ∧
          ∃ i, page.DotAt i ∧ i + 3 ≤ (Address.dropScheme followed.toList).length)) :=
  ⟨Url.hostPasses_of_isValid haddress hvalid,
    fun hhost hpercent => isValid_iff_of_resolve haddress hhost h hpercent⟩

theorem resolve_keeps_isValid_about :
    Url.ofText "http://example.com" = .ok (Url.examplePage [[]]) ∧
      resolve "/about" (Url.examplePage [[]]) = some "http://example.com/about" ∧
      Address.isValid "http://example.com/about" = true := by
  have hdot : Address.DotAt "example.com".toList 7 :=
    ⟨"example".toList, 'c', "om".toList, rfl, rfl, by decide, List.all_eq_true.1 (by decide), by decide⟩
  have hresolve : resolve "/about" (Url.examplePage [[]]) = some "http://example.com/about" := by
    decide +kernel
  obtain ⟨hpage, hlink⟩ := resolve_keeps_isValid Url.ofText_exampleHome (by decide) hresolve
  have hascii : ((Address.dropScheme "http://example.com".toList).takeWhile
      (!Url.isAuthorityEnd true ·)).all (·.toNat < 128) = true := by decide
  have hhost := (hpage rfl rfl fun c hc => of_decide_eq_true (List.all_eq_true.1 hascii c hc)).1
  exact ⟨Url.ofText_exampleHome, hresolve,
    (hlink hhost (by decide)).2 ⟨⟨by decide, by decide⟩, 7, ⟨_, rfl, hdot⟩, by decide⟩⟩

/-- A link on a page leads to an address that does not pass for one, while that of the page does. -/
def IsRefused (address link followed : String) : Prop :=
  ∃ page, Url.ofText address = .ok page ∧ Address.isValid address = true ∧
    resolve link page = some followed ∧ Address.isValid followed = false

/-- The page at the root of a host without a dot, with the name of a user that has one. -/
def userPage : Url :=
  { Url.examplePage [[]] with
    username := "a.b".toList
    host := some (.domain "localhost".toList) }

private theorem ofText_user : Url.ofText "http://a.b@localhost/" = .ok userPage := by
  have hread : Url.readHost "localhost".toList = .ok (.domain "localhost".toList) :=
    Url.IsPlainName.readHost_eq_domain (by decide) (by decide) (by decide)
  have hport : ∀ p, none = some p → p ≤ 65535 ∧ Url.defaultPort "http".toList ≠ some p := by simp
  have hhost := Url.readHostAndPort_append (.inl rfl) (Url.isHostText_of_readHost hread) hread hport
  rw [Url.Host.text, Url.portText, List.append_nil] at hhost
  have hsplit : Url.splitUser "a.b@localhost".toList = some (['a', '.', 'b'], "localhost".toList) := by
    decide
  have huser : Url.readUser ['a', '.', 'b'] = (['a', '.', 'b'], none) := by decide
  have hauthority : Url.readAuthority "http".toList "a.b@localhost".toList =
      .ok ⟨"a.b".toList, none, some (.domain "localhost".toList), none⟩ := by
    simp only [Url.readAuthority, hsplit, huser, hhost]
    rfl
  have htake : "a.b@localhost/".toList.takeWhile (!Url.isAuthorityEnd (Url.isSpecial "http".toList) ·) =
      "a.b@localhost".toList := by decide
  have hslashes : Url.ofText "http://a.b@localhost/" =
      Url.readAfterSlashes "http".toList "a.b@localhost/".toList :=
    Url.read_append (.inl rfl) (fun c hc => eq_false_of_ne_true (List.any_eq_false.1 (by decide) c hc))
      fun c hc => by
        cases hc
        rfl
  rw [hslashes, Url.readAfterSlashes, htake, hauthority, userPage, Url.examplePage,
    ← Url.readSegments_nil (.inl rfl)]
  rfl

/-- Links that do not pass for addresses: with a character that addresses do not have, with one character
after the dot, and without a dot in the host, where the page has it in the name of a user. -/
theorem refused_links :
    IsRefused "http://example.com" "/a|b" "http://example.com/a|b" ∧
      IsRefused "http://a.b/" "." "http://a.b" ∧
      IsRefused "http://a.b@localhost/" "x" "http://localhost/x" := by
  have hshort := Url.ofText_plain "http://a.b/" "a.b".toList ['/'] rfl (by decide) (by decide) (by decide)
    (by decide)
  refine ⟨⟨_, Url.ofText_exampleHome, ?_⟩, ⟨_, hshort, ?_⟩, ⟨_, ofText_user, ?_⟩⟩
  · decide +kernel
  · decide +kernel
  · decide +kernel

end Link

end SiteTech
