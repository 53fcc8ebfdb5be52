import SiteTech.Proofs.Crawl.Admission
import SiteTech.Proofs.Crawl.Outcome
import SiteTech.Proofs.Url.Stable

namespace SiteTech

namespace Link

/-- A link that is followed and passes for an address is the text of the address it leads to, without the
slashes at its end. -/
theorem key_text_of_resolve {address link followed : String} {page u : Url}
    (haddress : Url.ofText address = .ok page) (h : resolve link page = some followed)
    (hvalid : Address.isValid followed = true) (hu : Url.ofText followed = .ok u) :
    MemorySite.key u.text = followed := by
  obtain ⟨target, htarget, hweb, -, -, rfl⟩ := exists_target_of_resolve h
  have hform : target.IsWebForm := Url.isWebForm_of_join haddress htarget hweb
  have hopen : ∀ text ∈ target.hostText, text.head? ≠ some '[' := by
    intro text htext hbracket
    obtain ⟨rest, rfl⟩ := List.head?_eq_some_iff.1 hbracket
    rw [Address.isValid, Url.toList_canonical, Address.dropScheme_append (Url.isWeb_iff.1 hweb),
      Url.hostAndPort_eq htext] at hvalid
    exact absurd (Address.isHostChar_of_accepts hvalid '[' rfl) (by decide)
  have hchars := Url.dropTrailingSlashes_chars_of_ofText_canonical hweb hform
    (Url.isSettled_of_join haddress htarget hweb) hopen hu
  rw [MemorySite.key, Url.text, String.toList_ofList, hchars, String.ofList_toList]

end Link

namespace MemorySite

variable {site : MemorySite} {config : Config} {address : String}

theorem exists_addresses_eq_cons (site : MemorySite) (config : Config) (address : String) :
    ∃ rest, site.addresses config address = Address.normalize address :: rest := by
  obtain ⟨below, hbelow⟩ := firstLevels_prefix site.linksAt (Address.normalize address)
    (Nat.le_add_left 1 config.maxDepth.toNat)
  obtain ⟨room, hroom⟩ := Nat.exists_eq_succ_of_ne_zero (Nat.ne_of_gt config.pageLimit_pos)
  exact ⟨below.take room, by rw [addresses, ← hbelow, hroom]; rfl⟩

theorem nodup_addresses (site : MemorySite) (config : Config) (address : String) :
    (site.addresses config address).Nodup :=
  (nodup_firstLevels _ _ _).sublist (List.take_sublist _ _)

/-- An analysis asks for the addresses that it visits, if they pass for addresses. -/
theorem requests_analyze (site : MemorySite) (config : Config) (catalog : Catalog) (schedule : Schedule)
    (address : String) (log : MemoryLog) :
    (((site.analyzer config catalog schedule).analyze address).run log).2.requests =
      log.requests ++ (site.addresses config address).filter Address.isValid := by
  obtain ⟨s, log', hrun, hvisited, -⟩ := site.exists_run_ended config catalog schedule address log
  have hanalyze : ((site.analyzer config catalog schedule).analyze address).run log = (s.outcome, log') :=
    run_bind_eq hrun
  rw [hanalyze, hvisited.requests]

/-- An address that is visited after the start and asked for is the text of its page's address, without the
slashes at its end. -/
theorem key_text_of_mem_addresses {url : String} {u : Url} (hurl : url ∈ site.addresses config address)
    (hother : url ≠ Address.normalize address) (hvalid : Address.isValid url = true)
    (hu : Url.ofText url = .ok u) : key u.text = url := by
  obtain ⟨above, -, hlink⟩ := exists_link_of_mem_take hurl hother
  unfold linksAt at hlink
  split at hlink
  · obtain ⟨page, text, hpage, hresolve⟩ := Link.exists_of_mem_linksFrom hlink
    exact Link.key_text_of_resolve hpage hresolve hvalid hu
  · cases hlink

/-- The texts that an analysis asks for are all different. If two of them are addresses with the same text
up to slashes at its end, then the first is the start, spelled in another way, and the second is this
text. -/
theorem pages_are_requested_once (site : MemorySite) (config : Config) (catalog : Catalog) (schedule : Schedule)
    (address : String) (log : MemoryLog) :
    ∃ requests,
      (((site.analyzer config catalog schedule).analyze address).run log).2.requests = log.requests ++ requests ∧
      requests.Nodup ∧
      requests.Pairwise fun first second =>
        ∀ u v, Url.ofText first = .ok u → Url.ofText second = .ok v → key u.text = key v.text →
          first = Address.normalize address ∧ second = key u.text ∧ first ≠ second := by
  have hnodup := site.nodup_addresses config address
  refine ⟨_, site.requests_analyze config catalog schedule address log, hnodup.filter _, ?_⟩
  rw [List.pairwise_filter]
  obtain ⟨rest, hcons⟩ := site.exists_addresses_eq_cons config address
  rw [hcons, List.nodup_cons] at hnodup
  have hkey : ∀ url ∈ rest, Address.isValid url = true → ∀ u, Url.ofText url = .ok u → key u.text = url := by
    intro url hurl hvalid u hu
    exact key_text_of_mem_addresses (hcons ▸ List.mem_cons_of_mem _ hurl) (fun heq => hnodup.1 (heq ▸ hurl))
      hvalid hu
  -- Only the start, which comes first, need not be the text of its own address.
  rw [hcons, List.pairwise_cons]
  constructor
  · intro second hsecond _ hvalid u v _ hv hsame
    exact ⟨rfl, by rw [hsame, hkey second hsecond hvalid v hv], fun heq => hnodup.1 (heq ▸ hsecond)⟩
  · refine hnodup.2.imp_of_mem fun {first second} hfirst hsecond hne hvalid hvalid' u v hu hv hsame => ?_
    rw [hkey first hfirst hvalid u hu, hkey second hsecond hvalid' v hv] at hsame
    exact absurd hsame hne

/-- A site whose start is spelled with a capital letter and has a link to itself. -/
def respelledSite : MemorySite := empty.withHtml "http://Example.com" "<body><a href=/></a></body>"

private theorem ofText_respelled : Url.ofText "http://Example.com" = .ok (Url.examplePage [[]]) := by
  have hchars : "Example.com".toList.all (fun c => Url.isAuthorityChar c && decide (c.toNat < 128)) = true := by
    decide
  simp only [List.all_eq_true, Bool.and_eq_true, decide_eq_true_eq] at hchars
  have htext : Url.IsHostText "Example.com".toList :=
    Url.isHostText_of_plain (by decide) (fun c hc => (hchars c hc).1) (by decide) (by decide) (by decide)
  have hlower : Text.asciiLower "Example.com".toList = "example.com".toList := by decide
  have hname : Url.IsPlainName "example.com".toList := by decide
  have hread : Url.readHost "Example.com".toList = .ok (.domain "example.com".toList) := by
    rw [← Url.readHost_asciiLower (fun c hc => (hchars c hc).2) (by decide) (by decide), hlower]
    exact hname.readHost_eq_domain (by decide) (by decide)
  have hpath : Url.IsPathText [] := by decide
  rw [Url.ofText_written "http://Example.com" rfl htext hread hpath, Url.dropSlash,
    Url.readSegments_nil (.inl rfl)]
  rfl

private theorem linksAt_respelledSite : respelledSite.linksAt "http://Example.com" = ["http://example.com"] := by
  have hvalid : Address.isValid "http://Example.com" = true := by decide
  have hfound : respelledSite.page "http://Example.com" =
      .ok (Evidence.ofPage "http://Example.com" "<body><a href=/></a></body>") := by
    simp [respelledSite, withHtml, withPage, page, Table.get?_insert]
  have hofPage : Link.ofPage "<body><a href=/></a></body>" (Url.examplePage [[]]) = ["http://example.com"] := by
    decide +kernel
  simp only [linksAt, answer?, hvalid, if_true, hfound, Except.toOption, Evidence.linksFrom, ofText_respelled]
  exact hofPage

/-- The start is asked for a second time, under the text of its own address. -/
theorem respelled_start_is_requested_twice :
    let config := { Config.default with maxDepth := 1 }
    ∃ u v, (((respelledSite.analyzer config sampleCatalog .inOrder).analyze "http://Example.com").run
        ⟨[], 0⟩).2.requests = ["http://Example.com", "http://example.com"] ∧
      Url.ofText "http://Example.com" = .ok u ∧ Url.ofText "http://example.com" = .ok v ∧
      key u.text = key v.text := by
  intro config
  have haddresses : respelledSite.addresses config "http://Example.com" =
      ["http://Example.com", "http://example.com"] := by
    have hnormal : Address.normalize "http://Example.com" = "http://Example.com" := by decide
    have hlevels : firstLevels respelledSite.linksAt "http://Example.com" 2 =
        ["http://Example.com", "http://example.com"] := by
      simp [firstLevels, List.range_succ, level, upperAndLevel, linksAt_respelledSite, List.eraseDups_cons]
    have hdepth : config.maxDepth.toNat + 1 = 2 := rfl
    rw [addresses, hnormal, hdepth, hlevels]
    rfl
  refine ⟨_, _, ?_, ofText_respelled, Url.ofText_exampleHome, rfl⟩
  rw [requests_analyze, haddresses]
  decide

end MemorySite

end SiteTech
