import SiteTech.Proofs.Crawl.Uniqueness

namespace SiteTech.MemorySite

/-- An analysis of pages in memory makes no more visits than are set, and asks for no more pages, except that it
makes one visit if none is set: that of its start, which it asks for if this passes for an address. -/
theorem visits_keep_to_budget_unless_zero (site : MemorySite) (config : Config) (catalog : Catalog)
    (schedule : Schedule) (address : String) (log : MemoryLog) :
    ∃ s log' requests, ((site.analyzer config catalog schedule).run address).run log = (s, log') ∧
      ((site.analyzer config catalog schedule).analyze address).run log = (s.outcome, log') ∧
      log'.requests = log.requests ++ requests ∧
      requests.length ≤ s.visits.length ∧ s.visits.length ≤ max 1 config.maxPages.toNat ∧
      (s.visits.length ≤ config.maxPages.toNat ↔ config.maxPages ≠ 0) ∧
      (requests.length ≤ config.maxPages.toNat ↔
        config.maxPages ≠ 0 ∨ Address.isValid (Address.normalize address) = false) ∧
      (config.maxPages = 0 → s.visits = [site.visitOf (Address.normalize address)]) := by
  obtain ⟨s, log', hrun, hvisited, -⟩ := site.exists_run_ended config catalog schedule address log
  obtain ⟨rest, hcons⟩ := site.exists_addresses_eq_cons config address
  have hlength : s.visits.length = (site.addresses config address).length := by
    rw [hvisited.visits, List.length_map]
  have hwithin : (site.addresses config address).length ≤ max 1 config.maxPages.toNat :=
    List.length_take_le _ _
  have hrequests : ((site.addresses config address).filter Address.isValid).length ≤
      (site.addresses config address).length := List.length_filter_le _ _
  have hfirst : 0 < (site.addresses config address).length := by simp [hcons]
  have hzero : config.maxPages = 0 ↔ config.maxPages.toNat = 0 := by
    rw [← UInt32.toNat_inj, UInt32.toNat_zero]
  have hsingle : config.maxPages.toNat = 0 →
      site.addresses config address = [Address.normalize address] := by
    intro hnone
    rw [hcons, List.length_cons] at hwithin
    have hrest : rest = [] := List.eq_nil_of_length_eq_zero (by omega)
    rw [hcons, hrest]
  refine ⟨s, log', _, hrun, run_bind_eq hrun, hvisited.requests, ?_, ?_, ?_, ?_, ?_⟩
  · rw [hlength]
    exact hrequests
  · rw [hlength]
    exact hwithin
  · rw [hlength, Ne, hzero]
    omega
  · by_cases hnone : config.maxPages.toNat = 0
    · rw [hsingle hnone, Ne, hzero, hnone]
      by_cases hvalid : Address.isValid (Address.normalize address) <;> simp [hvalid]
    · refine iff_of_true ?_ (.inl fun heq => hnone (hzero.1 heq))
      omega
  · intro hnone
    rw [hvisited.visits, hsingle (hzero.1 hnone)]
    rfl

/-- With a greatest number of zero pages, one page is visited and asked for. -/
theorem start_is_visited_without_budget :
    let config := { Config.default with maxPages := 0 }
    let (s, log) := (((empty.withHtml "http://example.com" "").analyzer config sampleCatalog .inOrder).run
      "http://example.com").run ⟨[], 0⟩
    config.maxPages.toNat = 0 ∧ s.visits = [⟨"http://example.com", 200⟩] ∧
      log.requests = ["http://example.com"] := by
  intro config
  obtain ⟨s, log', hrun, hvisited, -⟩ := (empty.withHtml "http://example.com" "").exists_run_ended config
    sampleCatalog .inOrder "http://example.com" ⟨[], 0⟩
  have hnormal : Address.normalize "http://example.com" = "http://example.com" := by decide
  have hvalid : Address.isValid "http://example.com" = true := by decide
  have haddresses : (empty.withHtml "http://example.com" "").addresses config "http://example.com" =
      ["http://example.com"] := by
    rw [addresses, hnormal]
    rfl
  rw [hrun]
  dsimp only
  rw [hvisited.visits, hvisited.requests, haddresses]
  refine ⟨rfl, ?_, ?_⟩
  · have hfound : (empty.withHtml "http://example.com" "").page "http://example.com" =
        .ok (Evidence.ofPage "http://example.com" "") := by
      simp [withHtml, withPage, page, Table.get?_insert]
    simp [visitOf, answer?, hvalid, hfound, Except.toOption, Evidence.ofPage]
  · simp [hvalid]

end SiteTech.MemorySite
