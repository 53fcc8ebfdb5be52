import SiteTech.Fetch.Memory
import SiteTech.Proofs.Crawl.Visits

namespace SiteTech

namespace MemorySite

/-- An analysis of the pages, without a wait between two of them. -/
def analyzer (site : MemorySite) (config : Config) (catalog : Catalog) (schedule : Schedule) :
    Analyzer (StateM MemoryLog) :=
  ⟨config, catalog, schedule, site.fetcher, pure ()⟩

/-- The page that an analysis finds under an address: none if the address does not pass for one, or
if fetching the page fails. -/
def answer? (site : MemorySite) (url : String) : Option Evidence :=
  if Address.isValid url then (site.page url).toOption else none

/-- The links that an analysis takes from an address. -/
def linksAt (site : MemorySite) (url : String) : List String :=
  match site.answer? url with
  | some e => e.linksFrom url
  | none => []

/-- The visit of an address, as an analysis reports it. -/
def visitOf (site : MemorySite) (url : String) : PageStatus :=
  match site.answer? url with
  | some e => ⟨url, e.page.status⟩
  | none => ⟨url, failedStatus⟩

theorem visitOf_url (site : MemorySite) (url : String) : (site.visitOf url).url = url := by
  unfold visitOf
  split <;> rfl

/-- An analysis has visited exactly the addresses of a list, in its order. It has asked for those
that pass for an address, after what was asked for before. -/
structure Visited (site : MemorySite) (before : List String) (urls : List String) (s : Session)
    (log : MemoryLog) : Prop where
  visits : s.visits = urls.map site.visitOf
  requests : log.requests = before ++ urls.filter Address.isValid
  count : s.count.toNat = urls.length
  succeeded : s.succeeded = urls.any fun url => (site.answer? url).isSome

end MemorySite

namespace Config

/-- The greatest number of pages that are visited. The first page is visited in any case. -/
def pageLimit (c : Config) : Nat := max 1 c.maxPages.toNat

theorem pageLimit_pos (c : Config) : 0 < c.pageLimit := Nat.le_max_left _ _

theorem pageLimit_lt_size (c : Config) : c.pageLimit < UInt32.size := by
  have hlt := c.maxPages.toNat_lt_size
  have hsize : UInt32.size = 4294967296 := rfl
  unfold pageLimit
  omega

/-- The count of pages is not below the setting when the limit is reached. -/
theorem maxPages_le_iff {c : Config} {count : UInt32} (hcount : 0 < count.toNat) :
    c.maxPages ≤ count ↔ c.pageLimit ≤ count.toNat := by
  rw [UInt32.le_iff_toNat_le, pageLimit]
  omega

end Config

namespace MemorySite

variable {site : MemorySite} {config : Config} {catalog : Catalog} {schedule : Schedule}
  {before urls : List String} {s : Session} {log : MemoryLog} {url : String}

theorem Visited.record_depth (h : site.Visited before urls s log) (depth announced : UInt32) :
    site.Visited before urls (s.record (.depth depth)) { log with depth := announced } :=
  { h with visits := (s.visits_record_depth depth).trans h.visits }

theorem Visited.record_pause (h : site.Visited before urls s log) :
    site.Visited before urls (s.record .pause) log :=
  { h with visits := s.visits_record_pause.trans h.visits }

/-- A session after the visit of an address. -/
def afterVisit (site : MemorySite) (catalog : Catalog) (schedule : Schedule) (s : Session)
    (url : String) : Session :=
  match site.answer? url with
  | none => s.record (.visit (site.visitOf url))
  | some e =>
    { s.record (.visit (site.visitOf url)) with
      succeeded := true
      detections := catalog.detect schedule.traversal (schedule.arrangement url)
        site.fetcher.probe url e s.detections }

@[simp] theorem afterVisit_known : (site.afterVisit catalog schedule s url).known = s.known := by
  unfold afterVisit
  split <;> rfl

@[simp] theorem afterVisit_count : (site.afterVisit catalog schedule s url).count = s.count := by
  unfold afterVisit
  split <;> rfl

@[simp] theorem afterVisit_exhausted : (site.afterVisit catalog schedule s url).exhausted = s.exhausted := by
  unfold afterVisit
  split <;> rfl

theorem afterVisit_visits :
    (site.afterVisit catalog schedule s url).visits = s.visits ++ [site.visitOf url] := by
  rw [← Session.visits_record_visit]
  unfold afterVisit
  split <;> rfl

theorem afterVisit_succeeded :
    (site.afterVisit catalog schedule s url).succeeded = (s.succeeded || (site.answer? url).isSome) := by
  unfold afterVisit
  split <;> simp_all [Session.record]

/-- Visiting an address gives its links, and asks for it if it passes for one. -/
theorem run_visitPage (site : MemorySite) (config : Config) (catalog : Catalog) (schedule : Schedule)
    (s : Session) (url : String) (log : MemoryLog) :
    ((site.analyzer config catalog schedule).visitPage s url).run log =
      ((site.afterVisit catalog schedule s url, site.linksAt url),
        { log with requests := log.requests ++ [url].filter Address.isValid }) := by
  unfold Analyzer.visitPage afterVisit linksAt visitOf answer?
  by_cases hvalid : Address.isValid url
  · have hscrape : ((site.analyzer config catalog schedule).fetcher.scrape url).run log =
        (site.page url, { log with requests := log.requests ++ [url] }) := rfl
    simp only [hvalid, if_true, StateT.run_bind, hscrape, List.filter_cons_of_pos, List.filter_nil]
    cases site.page url <;> rfl
  · simp only [hvalid, Bool.false_eq_true, if_false, List.filter_cons_of_neg, List.filter_nil,
      List.append_nil, not_false_eq_true]
    rfl

/-- One more address has been visited when its visit is counted. -/
theorem Visited.visit (h : site.Visited before urls s log) (hroom : urls.length < config.pageLimit)
    (catalog : Catalog) (schedule : Schedule) (url : String) :
    site.Visited before (urls ++ [url]) (site.afterVisit catalog schedule s url).counted
      { log with requests := log.requests ++ [url].filter Address.isValid } where
  visits := by
    rw [List.map_append, ← h.visits]
    exact afterVisit_visits
  requests := by simp [h.requests]
  count := by
    have hsize := config.pageLimit_lt_size
    have hcount := h.count
    rw [Session.counted, afterVisit_count, toNat_add_one (by omega), hcount, List.length_append,
      List.length_singleton]
  succeeded := by
    rw [Session.counted, afterVisit_succeeded, h.succeeded]
    simp

/-- Crawling a level visits its addresses as far as there is room, and gives the links of those that
were visited. -/
theorem run_crawlLevel (catalog : Catalog) (schedule : Schedule) (h : site.Visited before urls s log)
    (hroom : urls.length < config.pageLimit) (hopen : s.exhausted = false) (level found : List String) :
    ∃ s' log', ((site.analyzer config catalog schedule).crawlLevel level s found).run log =
        ((s', ((level.take (config.pageLimit - urls.length)).flatMap site.linksAt).foldl
          Link.addNew found), log') ∧
      site.Visited before ((urls ++ level).take config.pageLimit) s' log' ∧
      log'.depth = log.depth ∧ s'.known = s.known ∧
      (s'.exhausted = true ↔ config.pageLimit ≤ (urls ++ level).length) := by
  induction level generalizing urls s log found with
  | nil =>
    refine ⟨s, log, by simp [Analyzer.crawlLevel]; rfl, ?_, rfl, rfl, ?_⟩
    · rw [List.append_nil, List.take_of_length_le (Nat.le_of_lt hroom)]
      exact h
    · simp [hopen, hroom]
  | cons url level ih =>
    have hvisit := h.visit hroom catalog schedule url
    have hlast : (site.analyzer config catalog schedule).config.maxPages ≤
        (site.afterVisit catalog schedule s url).counted.count ↔ config.pageLimit ≤ (urls ++ [url]).length := by
      rw [← hvisit.count]
      exact Config.maxPages_le_iff (by simp [hvisit.count])
    have happend : urls ++ url :: level = urls ++ [url] ++ level := by simp
    obtain ⟨room, hroom'⟩ : ∃ room, config.pageLimit - urls.length = room + 1 :=
      ⟨config.pageLimit - urls.length - 1, by omega⟩
    rw [Analyzer.run_crawlLevel_cons _ (run_visitPage site config catalog schedule s url log), hroom',
      List.take_succ_cons, List.flatMap_cons, List.foldl_append, happend]
    -- The limit may be reached by this address, with the rest of the level left out.
    by_cases hfull : config.pageLimit ≤ (urls ++ [url]).length
    · have hroom0 : room = 0 := by
        rw [List.length_append, List.length_singleton] at hfull
        omega
      subst hroom0
      have hlen : (urls ++ [url]).length = config.pageLimit := by
        rw [List.length_append, List.length_singleton] at hfull ⊢
        omega
      rw [if_pos (hlast.2 hfull)]
      refine ⟨_, _, rfl, ?_, rfl, afterVisit_known, ?_⟩
      · rw [List.take_append_of_le_length hfull, List.take_of_length_le (Nat.le_of_eq hlen)]
        exact { hvisit with }
      · simp only [List.length_append] at hlen ⊢
        simp; omega
    · have hrest : config.pageLimit - (urls ++ [url]).length = room := by
        rw [List.length_append, List.length_singleton]
        omega
      rw [if_neg (fun hle => hfull (hlast.1 hle)), ← hrest]
      obtain ⟨s', log', hrun, hvisited, hdepth, hknown, hexhausted⟩ :=
        ih hvisit.record_pause (Nat.lt_of_not_le hfull) (afterVisit_exhausted.trans hopen)
          ((site.linksAt url).foldl Link.addNew found)
      exact ⟨s', log', hrun, hvisited, hdepth, hknown.trans afterVisit_known, hexhausted⟩

/-- An analysis is about to visit a level: it has visited all levels above, with room left, and knows
them and the level. -/
structure AtLevel (site : MemorySite) (config : Config) (before : List String) (start : String)
    (d : Nat) (s : Session) (log : MemoryLog) : Prop where
  visited : site.Visited before (firstLevels site.linksAt start d) s log
  room : (firstLevels site.linksAt start d).length < config.pageLimit
  known : ∀ url, url ∈ s.known ↔ url ∈ firstLevels site.linksAt start (d + 1)
  nonempty : level site.linksAt start d ≠ []
  opened : s.exhausted = false

/-- What an analysis has done when it ends: the first addresses of the levels have been visited, and
the depth announced last is the level of the last one. -/
structure Ended (site : MemorySite) (config : Config) (before : List String) (start : String) (d : Nat)
    (s : Session) (log : MemoryLog) : Prop where
  visited : site.Visited before ((firstLevels site.linksAt start (d + 1)).take config.pageLimit) s log
  last : ∃ url, ((firstLevels site.linksAt start (d + 1)).take config.pageLimit).getLast? = some url ∧
    url ∈ level site.linksAt start log.depth.toNat

theorem Ended.congr {start : String} {d e : Nat} (h : site.Ended config before start d s log)
    (hsame : (firstLevels site.linksAt start (e + 1)).take config.pageLimit =
      (firstLevels site.linksAt start (d + 1)).take config.pageLimit) :
    site.Ended config before start e s log :=
  ⟨hsame ▸ h.visited, hsame ▸ h.last⟩

/-- Visiting a level, with its depth announced. The known addresses do not change, and if there is
room left then all links of the level are found. -/
theorem AtLevel.run_crawlLevel {start : String} {d : Nat} {depth : UInt32}
    (catalog : Catalog) (schedule : Schedule) (h : site.AtLevel config before start d s log)
    (hdepth : depth.toNat = d) :
    ∃ s' log' links, ((site.analyzer config catalog schedule).crawlLevel (level site.linksAt start d)
        (s.record (.depth depth)) []).run { log with depth := depth } = ((s', links), log') ∧
      site.Ended config before start d s' log' ∧ s'.known = s.known ∧
      (s'.exhausted = true → config.pageLimit ≤ (firstLevels site.linksAt start (d + 1)).length) ∧
      (s'.exhausted = false → (firstLevels site.linksAt start (d + 1)).length < config.pageLimit ∧
        links = ((level site.linksAt start d).flatMap site.linksAt).eraseDups) := by
  have hsplit := firstLevels_succ site.linksAt start d
  obtain ⟨s', log', hrun, hvisited, hlog, hknown, hexhausted⟩ := MemorySite.run_crawlLevel catalog schedule
    (h.visited.record_depth depth depth) h.room h.opened
    (level site.linksAt start d) []
  rw [Link.foldl_addNew] at hrun
  rw [← hsplit] at hvisited hexhausted
  refine ⟨s', log', _, hrun, ⟨hvisited, ?_⟩, hknown, hexhausted.1, fun hopen => ?_⟩
  · rw [hlog, hdepth]
    exact getLast?_take_firstLevels site.linksAt start h.nonempty h.room
  · have hroom : (firstLevels site.linksAt start (d + 1)).length < config.pageLimit := by
      by_contra hfull
      exact absurd (hexhausted.2 (Nat.le_of_not_lt hfull)) (by simp [hopen])
    refine ⟨hroom, ?_⟩
    rw [hsplit, List.length_append] at hroom
    rw [List.take_of_length_le (by omega)]

/-- The links of a level that are not known yet are the next level. -/
theorem AtLevel.next {start : String} {d : Nat} {s' : Session} {log' : MemoryLog}
    (h : site.AtLevel config before start d s log) (hended : site.Ended config before start d s' log')
    (hknown : s'.known = s.known) (hopen : s'.exhausted = false)
    (hroom : (firstLevels site.linksAt start (d + 1)).length < config.pageLimit) :
    ∃ queued, s'.enqueue ((level site.linksAt start d).flatMap site.linksAt).eraseDups =
        (queued, level site.linksAt start (d + 1)) ∧
      site.Ended config before start d queued log' ∧
      (level site.linksAt start (d + 1) ≠ [] →
        site.AtLevel config before start (d + 1) queued log') := by
  have hnext : ((level site.linksAt start d).flatMap site.linksAt).eraseDups.filter (· ∉ s'.known) =
      level site.linksAt start (d + 1) := by
    rw [level_succ]
    refine List.filter_congr fun url _ => ?_
    rw [hknown, decide_eq_decide, h.known]
  have hvisited : site.Visited before (firstLevels site.linksAt start (d + 1)) s' log' := by
    have hvisited := hended.visited
    rwa [List.take_of_length_le (Nat.le_of_lt hroom)] at hvisited
  rw [Session.enqueue_eq (nodup_eraseDups _), hnext]
  refine ⟨_, rfl, ⟨{ hended.visited with }, hended.last⟩, fun hne =>
    ⟨{ hvisited with }, hroom, fun url => ?_, hne, hopen⟩⟩
  rw [firstLevels_succ _ _ (d + 1)]
  simp only [List.mem_append, List.mem_reverse, hknown, h.known]
  exact or_comm

/-- From a level on, an analysis visits the levels up to the deepest one, as far as there is room. -/
theorem run_crawlFrom {start : String} {deeper d : Nat} {depth : UInt32} (catalog : Catalog)
    (schedule : Schedule) (h : site.AtLevel config before start d s log) (hdepth : depth.toNat = d)
    (hdeepest : d + deeper < UInt32.size) :
    ∃ s' log', ((site.analyzer config catalog schedule).crawlFrom deeper depth
        (level site.linksAt start d) s).run log = (s', log') ∧
      site.Ended config before start (d + deeper) s' log' := by
  induction deeper generalizing d depth s log with
  | zero =>
    obtain ⟨s', log', links, hrun, hended, -⟩ := h.run_crawlLevel catalog schedule hdepth
    exact ⟨s', log', Analyzer.run_crawlFrom_zero _ hrun, hended⟩
  | succ deeper ih =>
    obtain ⟨s', log', links, hrun, hended, hknown, hfull, hopen⟩ :=
      h.run_crawlLevel catalog schedule hdepth
    rw [Analyzer.run_crawlFrom_succ _ hrun]
    cases hexhausted : s'.exhausted with
    | true =>
      have hsame := take_firstLevels_of_le site.linksAt start (show d + 1 ≤ d + (deeper + 1) + 1 by omega)
        (hfull hexhausted)
      exact ⟨s', log', rfl, hended.congr hsame⟩
    | false =>
      obtain ⟨hroom, rfl⟩ := hopen hexhausted
      obtain ⟨queued, hqueued, hended, hnext⟩ := h.next hended hknown hexhausted hroom
      rw [hqueued]
      by_cases hempty : level site.linksAt start (d + 1) = []
      · refine ⟨queued, log', by simp [hempty], hended.congr ?_⟩
        rw [firstLevels_eq_of_level_eq_nil _ _ (by omega) hempty]
      · have hdeeper : (depth + 1).toNat = d + 1 := by rw [toNat_add_one (by omega), hdepth]
        obtain ⟨s'', log'', hlast, hended⟩ := ih (hnext hempty) hdeeper (by omega)
        exact ⟨s'', log'', by simpa [hempty] using hlast, by rwa [Nat.add_right_comm] at hended⟩

/-- An analysis of pages in memory visits the addresses that the links lead to from its start, level by
level down to the deepest one, in the order in which they are found, each once, up to the greatest
number of pages. It asks for those that pass for an address, and announces the level of each. The
report has all visits, unless no page could be fetched. -/
theorem visits_are_first_levels (site : MemorySite) (config : Config) (catalog : Catalog) (schedule : Schedule)
    (address : String) (log : MemoryLog) :
    let start := Address.normalize address
    let urls := (firstLevels site.linksAt start (config.maxDepth.toNat + 1)).take
      (max 1 config.maxPages.toNat)
    ∃ s log', ((site.analyzer config catalog schedule).run address).run log = (s, log') ∧
      ((site.analyzer config catalog schedule).analyze address).run log = (s.outcome, log') ∧
      s.visits.map PageStatus.url = urls ∧ s.visits = urls.map site.visitOf ∧ urls.Nodup ∧
      log'.requests = log.requests ++ urls.filter Address.isValid ∧
      (∃ url, urls.getLast? = some url ∧ url ∈ level site.linksAt start log'.depth.toNat) ∧
      (∀ report, s.outcome = .ok report → report.urls = s.visits) ∧
      (s.outcome = .error .allPagesFailed ↔ ∀ url ∈ urls, site.answer? url = none) := by
  intro start urls
  have hstart : site.AtLevel config log.requests start 0 (Session.start start) log :=
    { visited := ⟨rfl, by simp [firstLevels], rfl, rfl⟩
      room := config.pageLimit_pos
      known := fun url => by simp [Session.start, firstLevels, level, upperAndLevel]
      nonempty := by simp [level, upperAndLevel]
      opened := rfl }
  have hdeepest : 0 + config.maxDepth.toNat < UInt32.size := by
    have hlt := config.maxDepth.toNat_lt_size
    omega
  obtain ⟨s, log', hrun, hended⟩ := run_crawlFrom catalog schedule hstart UInt32.toNat_zero hdeepest
  rw [Nat.zero_add] at hended
  have hvisits : s.visits = urls.map site.visitOf := hended.visited.visits
  have hurls : s.visits.map PageStatus.url = urls := by
    rw [hvisits, List.map_map]
    exact (List.map_congr_left fun url _ => site.visitOf_url url).trans (List.map_id' urls)
  refine ⟨s, log', hrun, run_bind_eq hrun, hurls, hvisits,
    (nodup_firstLevels _ _ _).sublist (List.take_sublist _ _), hended.visited.requests, hended.last,
    ?_, ?_⟩
  · exact fun report hreport => s.urls_of_outcome_eq_ok hreport
  · have hsucceeded : s.succeeded = urls.any fun url => (site.answer? url).isSome :=
      hended.visited.succeeded
    rw [s.outcome_eq_error_iff, hsucceeded, List.any_eq_false]
    simp

end MemorySite

end SiteTech
