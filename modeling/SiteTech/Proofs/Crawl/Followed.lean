import SiteTech.Crawl.Address
import SiteTech.Proofs.Crawl.Confinement
import SiteTech.Proofs.Url.Basis
import SiteTech.Proofs.Url.Stable

namespace SiteTech

theorem Text.getLast?_ne_of_dropTrailingSlashes_eq_self {s : List Char} (h : dropTrailingSlashes s = s) :
    s.getLast? ≠ some '/' := by
  rw [← h]
  exact getLast?_dropTrailingSlashes_ne s

namespace Url

/-- Whether a character is a visible one of ASCII. -/
def IsVisible (c : Char) : Prop := 0x20 < c.toNat ∧ c.toNat < 0x7f

instance (c : Char) : Decidable (IsVisible c) := inferInstanceAs (Decidable (_ ∧ _))

theorem IsVisible.isEdge {c : Char} (h : IsVisible c) : isEdge c = false := by
  rw [Url.isEdge, decide_eq_false_iff_not]
  exact Nat.not_le.2 h.1

theorem IsVisible.isBlank {c : Char} (h : IsVisible c) : Text.isBlank c = false := by
  obtain ⟨hlow, hhigh⟩ := h
  simp only [Text.isBlank, Bool.or_eq_false_iff, Bool.and_eq_false_iff, decide_eq_false_iff_not,
    beq_eq_false_iff_ne]
  omega

theorem isVisible_of_isSegmentChar {c : Char} (h : isSegmentChar c = true) : IsVisible c := by
  simp only [isSegmentChar, inPath, inFragment, inControls, Bool.and_eq_true, Bool.not_eq_true',
    Bool.or_eq_false_iff, decide_eq_false_iff_not, List.contains_eq_mem, List.mem_cons, not_or] at h
  obtain ⟨⟨⟨⟨hlow, hhigh⟩, hblank, -⟩, -⟩, -⟩ := h
  have hspace : c.toNat ≠ 0x20 := fun heq => hblank (Char.toNat_inj.1 heq)
  exact ⟨by omega, by omega⟩

theorem isVisible_digitChar : ∀ d < 16, IsVisible d.digitChar := by decide

theorem isVisible_of_ascii {c : Char} (hascii : c.toNat < 128) (hallowed : isForbidden c = false) :
    IsVisible c := by
  simp only [isForbidden, Bool.or_eq_false_iff, decide_eq_false_iff_not, beq_eq_false_iff_ne] at hallowed
  obtain ⟨⟨hlow, hdelete⟩, -⟩ := hallowed
  exact ⟨by omega, by omega⟩

/-- The text of a host has visible characters only. -/
theorem isVisible_of_mem_text {s : List Char} {h : Host} (hread : readHost s = .ok h) :
    ∀ c ∈ h.text, IsVisible c := by
  intro c hc
  cases h with
  | domain name =>
    obtain ⟨⟨bytes, hname⟩, -⟩ := domain_of_readHost hread
    exact isVisible_of_ascii (ascii_domainToAscii hname c hc).1 (not_isForbidden_domainToAscii hname c hc)
  | ipv4 a =>
    have hplain := isPlainName_showIpv4 a
    exact isVisible_of_ascii (hplain.ascii c hc) (hplain.allowed c hc)
  | ipv6 pieces =>
    simp only [Host.text, List.cons_append, List.mem_cons, List.mem_append, List.not_mem_nil, or_false] at hc
    rcases hc with rfl | hc | rfl
    · decide
    · rcases eq_or_exists_digitChar_of_mem_showIpv6 hc with rfl | ⟨d, hd, rfl⟩
      · decide
      · exact isVisible_digitChar d hd
    · decide

theorem isVisible_of_mem_portText {port : Option Nat} : ∀ c ∈ portText port, IsVisible c := by
  intro c hc
  cases port with
  | none => cases hc
  | some p =>
    rcases List.mem_cons.1 hc with rfl | hc
    · decide
    · obtain ⟨d, hd, rfl⟩ := Text.exists_digitChar_of_mem_toDigits (by decide) hc
      exact isVisible_digitChar d (by omega)

theorem IsWebScheme.isVisible {scheme : List Char} (hweb : IsWebScheme scheme) : ∀ c ∈ scheme, IsVisible c := by
  have hchars : scheme.all (fun c => decide (IsVisible c)) = true := by rcases hweb with rfl | rfl <;> decide
  exact fun c hc => of_decide_eq_true (List.all_eq_true.1 hchars c hc)

variable {u : Url}

/-- The form in which a web page is visited has visible characters only. -/
theorem isVisible_of_mem_canonical (hweb : u.isWeb = true) (hform : u.IsWebForm) :
    ∀ c ∈ (Link.canonical u).toList, IsVisible c := by
  obtain ⟨s, h, hread, hsome⟩ := hform.host
  have htext : u.hostText = some h.text := by rw [hostText, hsome, Option.map_some]
  intro c hc
  simp only [toList_canonical, hostAndPort_eq htext, List.mem_append, List.mem_cons] at hc
  rcases hc with hc | rfl | rfl | rfl | (hc | hc) | hc
  · exact (isWeb_iff.1 hweb).isVisible c hc
  · decide
  · decide
  · decide
  · exact isVisible_of_mem_text hread c hc
  · exact isVisible_of_mem_portText c hc
  · rcases hform.isSegmentChar hc with rfl | hc
    · decide
    · exact isVisible_of_isSegmentChar hc

theorem trimList_canonical (hweb : u.isWeb = true) (hform : u.IsWebForm) :
    Text.trimList (Link.canonical u).toList = (Link.canonical u).toList :=
  Text.trimList_eq_self fun c hc => (isVisible_of_mem_canonical hweb hform c hc).isBlank

/-- The form in which a web page is visited has no slash at its end. -/
theorem dropTrailingSlashes_canonical {text : List Char} (hform : u.IsWebForm) (htext : u.hostText = some text) :
    Text.dropTrailingSlashes (Link.canonical u).toList = (Link.canonical u).toList := by
  obtain ⟨front, c, hend, hc⟩ := exists_append_portText (hform.isHostText htext) u.port
  have hpath : Text.dropEndWhile (· == '/') (Text.dropTrailingSlashes u.path.text) =
      Text.dropTrailingSlashes u.path.text := List.rdropWhile_idempotent _ _
  have hwritten : (Link.canonical u).toList =
      (u.scheme ++ ':' :: '/' :: '/' :: front) ++ c :: Text.dropTrailingSlashes u.path.text := by
    simp [toList_canonical, hostAndPort_eq htext, hend]
  rw [hwritten, Text.dropTrailingSlashes, Text.dropEndWhile_append (p := (· == '/')) hc, hpath]

/-- The form in which a web page is visited takes nothing from a page on which it stands as a link. -/
theorem relativePart_canonical (hweb : u.isWeb = true) (hform : u.IsWebForm) (scheme : List Char) :
    relativePart scheme (Link.canonical u).toList = none := by
  have hsignificant : significant (Link.canonical u).toList = (Link.canonical u).toList :=
    significant_eq_self fun c hc => (isVisible_of_mem_canonical hweb hform c hc).isEdge
  have hslashes (rest : List Char) :
      ¬('/' :: '/' :: rest).length - (('/' :: '/' :: rest).dropWhile (isSlash true)).length < 2 := by
    have hle := List.length_dropWhile_le (isSlash true) rest
    rw [List.dropWhile_cons_of_pos (by decide), List.dropWhile_cons_of_pos (by decide)]
    simp only [List.length_cons]
    omega
  rw [relativePart, hsignificant, toList_canonical, readScheme_append (isWeb_iff.1 hweb)]
  dsimp only
  rw [decide_eq_false (hslashes _), Bool.and_false, Bool.false_and]
  rfl

/-- The form in which a web page is visited is read as an address with the same form on the same site. -/
theorem exists_ofText_canonical {h : Host} (hweb : u.isWeb = true) (hform : u.IsWebForm)
    (hsettled : u.IsSettled) (htext : u.hostText = some h.text) (hread : readHost h.text = .ok h) :
    ∃ v, ofText (Link.canonical u) = .ok v ∧ v.isWeb = true ∧ Link.sameSite v u = true ∧
      Link.canonical v = Link.canonical u := by
  obtain ⟨segments, hpath, hchars⟩ := hform.path
  have hsteps : ∀ segment ∈ segments, IsStep segment := by rwa [IsSettled, hpath] at hsettled
  have hsame := dropTrailingSlashes_readSegments (isWeb_iff.1 hweb) hchars hsteps
  refine ⟨_, ofText_canonical hweb hform htext hread, hweb, ?_, String.toList_injective ?_⟩
  · rw [Link.sameSite, htext, hostText, Option.map_some]
    simp
  · rw [toList_canonical, toList_canonical, hostAndPort_eq htext, hpath, hsame]
    rfl

end Url

namespace Link

variable {u page : Url}

theorem sameSite_iff {u v : Url} : sameSite u v = true ↔ u.hostText = v.hostText ∧ u.port = v.port := by
  simp [sameSite]

/-- The form in which a web page is visited is followed to itself, from any page on the same site. -/
theorem resolve_canonical {h : Url.Host} (hweb : u.isWeb = true) (hform : u.IsWebForm) (hsettled : u.IsSettled)
    (htext : u.hostText = some h.text) (hread : Url.readHost h.text = .ok h)
    (hsite : sameSite u page = true) : resolve (canonical u) page = some (canonical u) := by
  obtain ⟨v, hv, hvweb, hvsite, hvform⟩ := Url.exists_ofText_canonical hweb hform hsettled htext hread
  have htrim := Url.trimList_canonical hweb hform
  have hne : (canonical u).toList.isEmpty = false := by simp [Url.toList_canonical]
  have hjoin : page.join (canonical u).toList = .ok v :=
    (Url.join_of_relativePart_eq_none (Url.relativePart_canonical hweb hform _)).trans hv
  rw [sameSite_iff] at hsite hvsite
  have hsame : sameSite v page = true := sameSite_iff.2 ⟨hvsite.1.trans hsite.1, hvsite.2.trans hsite.2⟩
  simp only [resolve, htrim, hne, hjoin, hvweb, hsame, hvform, Bool.and_self, if_true, Bool.false_eq_true,
    if_false]

/-- A link that is followed from a page leads to a text that is final: from the same page, or from the page
it leads to, it leads to itself; it is the form of the address that is read from it; it has no slash at its
end, and it is the form under which its page counts as visited. All that is needed is that reading the text
of the page's host gives this host again. -/
theorem resolve_is_final {address link followed : String} {page : Url}
    (haddress : Url.ofText address = .ok page) (hback : page.HostReadsBack)
    (h : resolve link page = some followed) :
    resolve followed page = some followed ∧
      (∃ u, Url.ofText followed = .ok u ∧ canonical u = followed ∧ resolve followed u = some followed) ∧
      followed.toList.getLast? ≠ some '/' ∧ Address.normalize followed = followed := by
  obtain ⟨target, htarget, hweb, hhost, hport, rfl⟩ := exists_target_of_resolve h
  have hform : target.IsWebForm := Url.isWebForm_of_join haddress htarget hweb
  have hsettled : target.IsSettled := Url.isSettled_of_join haddress htarget hweb
  obtain ⟨s, host, hread, hsome⟩ := hform.host
  have htext : target.hostText = some host.text := by rw [Url.hostText, hsome, Option.map_some]
  obtain ⟨host', hread', hsame⟩ := hback host.text (hhost ▸ htext) s host hread rfl
  rw [← hsame] at htext hread'
  obtain ⟨u, hu, huweb, husite, huform⟩ := Url.exists_ofText_canonical hweb hform hsettled htext hread'
  rw [sameSite_iff] at husite
  have hslash := Url.dropTrailingSlashes_canonical hform htext
  refine ⟨resolve_canonical hweb hform hsettled htext hread' (sameSite_iff.2 ⟨hhost, hport⟩),
    ⟨u, hu, huform, resolve_canonical hweb hform hsettled htext hread'
      (sameSite_iff.2 ⟨husite.1.symm, husite.2.symm⟩)⟩, ?_, ?_⟩
  · exact Text.getLast?_ne_of_dropTrailingSlashes_eq_self hslash
  · rw [Address.normalize, Url.trimList_canonical hweb hform, hslash, String.ofList_toList]

theorem next_page_is_final :
    resolve "http://example.com/blog/post/next" (Url.examplePage ["blog".toList, "post".toList, []]) =
        some "http://example.com/blog/post/next" ∧
      Address.normalize "http://example.com/blog/post/next" = "http://example.com/blog/post/next" := by
  have haddress : Url.ofText "http://example.com/blog/post/" =
      .ok (Url.examplePage ["blog".toList, "post".toList, []]) :=
    Url.ofText_examplePage "blog".toList ["post".toList, []] (by decide)
  have hback : (Url.examplePage ["blog".toList, "post".toList, []]).HostReadsBack :=
    Url.hostReadsBack_of_isPlainName fun text htext => by
      cases htext
      decide
  have hnext : resolve " next?page=2#top" (Url.examplePage ["blog".toList, "post".toList, []]) =
      some "http://example.com/blog/post/next" := by decide +kernel
  obtain ⟨hagain, -, -, hnormal⟩ := resolve_is_final haddress hback hnext
  exact ⟨hagain, hnormal⟩

end Link

end SiteTech
