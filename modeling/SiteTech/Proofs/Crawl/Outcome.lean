import SiteTech.Proofs.Crawl.Breadth
import SiteTech.Proofs.Crawl.Course
import SiteTech.Proofs.Rules.Catalog

namespace SiteTech

namespace Analyzer

variable {m : Type → Type} [Monad m] {a b : Analyzer m}

theorem crawlLevel_congr (hconfig : b.config = a.config) (hpause : b.pause = a.pause)
    (hvisit : ∀ s url, b.visitPage s url = a.visitPage s url) (level : List String) (s : Session)
    (found : List String) : b.crawlLevel level s found = a.crawlLevel level s found := by
  induction level generalizing s found with
  | nil => rfl
  | cons url level ih => simp only [crawlLevel, hconfig, hpause, hvisit, ih]

/-- An analysis knows the pages only by what visiting one gives. -/
theorem run_congr (hconfig : b.config = a.config) (hpause : b.pause = a.pause)
    (hdepth : b.fetcher.announceDepth = a.fetcher.announceDepth)
    (hvisit : ∀ s url, b.visitPage s url = a.visitPage s url) (address : String) :
    b.run address = a.run address := by
  have hfrom (deeper : Nat) (depth : UInt32) (level : List String) (s : Session) :
      b.crawlFrom deeper depth level s = a.crawlFrom deeper depth level s := by
    induction deeper generalizing depth level s with
    | zero =>
      unfold crawlFrom
      simp only [hdepth, crawlLevel_congr hconfig hpause hvisit]
    | succ deeper ih =>
      unfold crawlFrom
      simp only [hdepth, crawlLevel_congr hconfig hpause hvisit, ih]
  simp only [run, hconfig, hfrom]

end Analyzer

/-- The store that pages fill one after the other, each with its signs in an order of its own. -/
def Catalog.detectAll (c : Catalog) (o : Traversal) (probe : Probe)
    (pages : List (Arrangement × String × Evidence)) : DetectionStore :=
  pages.foldl (fun s page => c.detect o page.1 probe page.2.1 page.2.2 s) DetectionStore.empty

/-- Pages with the orders in which their signs are recorded. -/
def Schedule.arrange (schedule : Schedule) (pages : List (String × Evidence)) :
    List (Arrangement × String × Evidence) :=
  pages.map fun page => (schedule.arrangement page.1, page)

theorem exists_mem_level_of_mem_level_succ {links : String → List String} {start url : String} {d : Nat}
    (h : url ∈ level links start (d + 1)) : ∃ above ∈ level links start d, url ∈ links above := by
  rw [level_succ, List.mem_filter, List.mem_eraseDups, List.mem_flatMap] at h
  exact h.1

/-- An address within a limit, if it is not the start, is a link of an address within the limit. -/
theorem exists_link_of_mem_take {links : String → List String} {start url : String} {n limit : Nat}
    (h : url ∈ (firstLevels links start n).take limit) (hurl : url ≠ start) :
    ∃ above ∈ (firstLevels links start n).take limit, url ∈ links above := by
  induction n with
  | zero => simp [firstLevels] at h
  | succ n ih =>
    rw [firstLevels_succ] at h ⊢
    rw [List.take_append] at h ⊢
    rcases List.mem_append.1 h with h | h
    · obtain ⟨above, habove, hlink⟩ := ih h
      exact ⟨above, List.mem_append_left _ habove, hlink⟩
    · cases n with
      | zero =>
        have hstart := List.mem_of_mem_take h
        simp only [level, upperAndLevel, List.mem_singleton] at hstart
        exact absurd hstart hurl
      | succ n =>
        obtain ⟨above, habove, hlink⟩ := exists_mem_level_of_mem_level_succ (List.mem_of_mem_take h)
        -- There is room for an address of this level, so all levels above it are within the limit.
        have hroom : (firstLevels links start (n + 1)).length ≤ limit := by
          by_contra hfull
          rw [Nat.sub_eq_zero_of_le (Nat.le_of_not_le hfull), List.take_zero] at h
          cases h
        rw [List.take_of_length_le hroom, firstLevels_succ]
        exact ⟨above, by simp [habove], hlink⟩

namespace MemorySite

variable {site : MemorySite}

/-- The pages that were found under some addresses, each with its address. -/
def successes (site : MemorySite) (urls : List String) : List (String × Evidence) :=
  urls.filterMap fun url => (site.answer? url).map fun e => (url, e)

theorem answer?_eq_some_iff {url : String} {e : Evidence} :
    site.answer? url = some e ↔ Address.isValid url = true ∧ site.page url = .ok e := by
  unfold answer?
  split
  · rename_i hvalid
    cases site.page url <;> simp [hvalid, Except.toOption]
  · rename_i hinvalid
    simp [hinvalid]

theorem answer?_eq_none_iff {url : String} :
    site.answer? url = none ↔ ¬(Address.isValid url = true ∧ ∃ e, site.page url = .ok e) := by
  simp only [Option.eq_none_iff_forall_ne_some, ne_eq, answer?_eq_some_iff, not_and, not_exists]
  exact ⟨fun h hvalid e => h e hvalid, fun h e hvalid => h hvalid e⟩

/-- The store that the pages fill that were found under some addresses. -/
def detectedAt (site : MemorySite) (catalog : Catalog) (schedule : Schedule) (urls : List String) :
    DetectionStore :=
  catalog.detectAll schedule.traversal site.fetcher.probe (schedule.arrange (site.successes urls))

/-- The detections of a session are those of the pages that were found on its visits. -/
def Detected (site : MemorySite) (catalog : Catalog) (schedule : Schedule) (s : Session) : Prop :=
  s.detections = site.detectedAt catalog schedule (s.visits.map PageStatus.url)

theorem afterVisit_detections (site : MemorySite) (catalog : Catalog) (schedule : Schedule)
    (s : Session) (url : String) :
    (site.afterVisit catalog schedule s url).detections =
      (site.answer? url).elim s.detections fun e =>
        catalog.detect schedule.traversal (schedule.arrangement url) site.fetcher.probe url e
          s.detections := by
  unfold MemorySite.afterVisit
  cases site.answer? url <;> rfl

theorem detectedAt_concat (site : MemorySite) (catalog : Catalog) (schedule : Schedule)
    (urls : List String) (url : String) :
    site.detectedAt catalog schedule (urls ++ [url]) =
      (site.answer? url).elim (site.detectedAt catalog schedule urls) fun e =>
        catalog.detect schedule.traversal (schedule.arrangement url) site.fetcher.probe url e
          (site.detectedAt catalog schedule urls) := by
  rw [detectedAt, successes, List.filterMap_append, Schedule.arrange, List.map_append,
    Catalog.detectAll, List.foldl_append]
  cases hanswer : site.answer? url <;>
    simp [hanswer, detectedAt, Catalog.detectAll, Schedule.arrange, successes]

variable {catalog : Catalog} {schedule : Schedule} {s s' : Session}

theorem Detected.afterVisit (h : site.Detected catalog schedule s) (url : String) :
    site.Detected catalog schedule (site.afterVisit catalog schedule s url) := by
  unfold Detected at h ⊢
  rw [afterVisit_visits, List.map_append, List.map_singleton, visitOf_url, detectedAt_concat,
    afterVisit_detections, h]

theorem Detected.congr (h : site.Detected catalog schedule s) (hvisits : s'.visits = s.visits)
    (hdetections : s'.detections = s.detections) : site.Detected catalog schedule s' := by
  rw [Detected, hvisits, hdetections]
  exact h

theorem keeps_detected (site : MemorySite) (config : Config) (catalog : Catalog)
    (schedule : Schedule) :
    (site.analyzer config catalog schedule).Keeps fun s _ => site.Detected catalog schedule s where
  announce s log depth hs := hs.congr (s.visits_record_depth depth) rfl
  visit s url log s' links log' _ hs hrun := by
    rw [run_visitPage] at hrun
    cases hrun
    have hvisited := hs.afterVisit url
    exact ⟨fun _ => hvisited.congr rfl rfl, fun _ => hvisited.congr (Session.visits_record_pause _) rfl⟩
  enqueue s log links hs := hs.congr (s.enqueue_visits links).1 (s.enqueue_detections links)

/-- The addresses that an analysis visits. -/
def addresses (site : MemorySite) (config : Config) (address : String) : List String :=
  (firstLevels site.linksAt (Address.normalize address) (config.maxDepth.toNat + 1)).take
    config.pageLimit

theorem Visited.urls {before urls : List String} {s : Session} {log : MemoryLog}
    (h : site.Visited before urls s log) : s.visits.map PageStatus.url = urls := by
  rw [h.visits, List.map_map]
  exact (List.map_congr_left fun url _ => site.visitOf_url url).trans (List.map_id' urls)

/-- A finished analysis has visited its addresses, and its detections are those of the pages that were
found there. -/
theorem exists_run_ended (site : MemorySite) (config : Config) (catalog : Catalog)
    (schedule : Schedule) (address : String) (log : MemoryLog) :
    ∃ s log', ((site.analyzer config catalog schedule).run address).run log = (s, log') ∧
      site.Visited log.requests (site.addresses config address) s log' ∧
      s.detections = site.detectedAt catalog schedule (site.addresses config address) := by
  have hstart : site.AtLevel config log.requests (Address.normalize address) 0
      (Session.start (Address.normalize address)) log :=
    { visited := ⟨rfl, by simp [firstLevels], rfl, rfl⟩
      room := config.pageLimit_pos
      known := fun url => by simp [Session.start, firstLevels, level, upperAndLevel]
      nonempty := by simp [level, upperAndLevel]
      opened := rfl }
  have hdeepest : 0 + config.maxDepth.toNat < UInt32.size := by
    rw [Nat.zero_add]
    exact config.maxDepth.toNat_lt_size
  obtain ⟨s, log', hrun, hended⟩ := run_crawlFrom catalog schedule hstart UInt32.toNat_zero hdeepest
  have hvisited : site.Visited log.requests (site.addresses config address) s log' := by
    have hlast := hended.visited
    rwa [Nat.zero_add] at hlast
  have hends : ((site.analyzer config catalog schedule).run address).run log = (s, log') := hrun
  obtain ⟨s', log'', hrun', hdetected⟩ := (site.keeps_detected config catalog schedule).run address log rfl
  cases hends.symm.trans hrun'
  rw [Detected, hvisited.urls] at hdetected
  exact ⟨s, log', hends, hvisited, hdetected⟩

/-- Sites that differ only in why pages cannot be fetched are visited alike. -/
theorem visitPage_congr {other : MemorySite} (hrender : other.canRender = site.canRender)
    (hvalues : other.values = site.values)
    (hpages : ∀ url, (other.page url).toOption = (site.page url).toOption) (config : Config)
    (catalog : Catalog) (schedule : Schedule) (s : Session) (url : String) :
    (other.analyzer config catalog schedule).visitPage s url =
      (site.analyzer config catalog schedule).visitPage s url := by
  have hanswer : other.answer? = site.answer? := by
    funext url
    simp only [answer?, hpages]
  have hevaluate : other.evaluate = site.evaluate := by
    funext expression
    simp only [evaluate, hrender, hvalues]
  have hprobe : other.fetcher.probe = site.fetcher.probe := by
    simp only [Fetcher.probe, fetcher, hrender, hevaluate]
  apply StateT.ext
  intro log
  rw [run_visitPage, run_visitPage]
  simp only [MemorySite.afterVisit, linksAt, visitOf, hanswer, hprobe]

/-- A page that is no address or cannot be fetched leaves nothing but its visit. An analysis fails only
if all its visits do; else its report has all visits, under the addresses that were asked for, and what
the pages that were found show, in the order of their visits. Only such pages lead on to others, and
why others were not found changes nothing at all. -/
theorem failed_pages_leave_their_visits (site : MemorySite) (config : Config) (catalog : Catalog)
    (schedule : Schedule) (address : String) (log : MemoryLog) :
    ∃ s log', ((site.analyzer config catalog schedule).run address).run log = (s, log') ∧
      ((site.analyzer config catalog schedule).analyze address).run log = (s.outcome, log') ∧
      log'.requests = log.requests ++ (s.visits.map PageStatus.url).filter Address.isValid ∧
      (s.outcome = .error .allPagesFailed ↔
        ¬∃ page ∈ s.visits, Address.isValid page.url = true ∧ ∃ e, site.page page.url = .ok e) ∧
      ((∃ page ∈ s.visits, Address.isValid page.url = true ∧ ∃ e, site.page page.url = .ok e) →
        s.outcome = .ok ⟨s.visits, (catalog.detectAll schedule.traversal site.fetcher.probe
          (schedule.arrange (site.successes (s.visits.map PageStatus.url)))).findings⟩) ∧
      (∀ page ∈ s.visits,
        (¬(Address.isValid page.url = true ∧ ∃ e, site.page page.url = .ok e) → page.status = 400) ∧
        ∀ e, Address.isValid page.url = true → site.page page.url = .ok e →
          page.status = e.page.status) ∧
      (∀ page ∈ s.visits, page.url ≠ Address.normalize address →
        ∃ above ∈ s.visits, Address.isValid above.url = true ∧ ∃ e, site.page above.url = .ok e ∧
          page.url ∈ e.linksFrom above.url) ∧
      ∀ other : MemorySite, other.canRender = site.canRender → other.values = site.values →
        (∀ url, (other.page url).toOption = (site.page url).toOption) →
        ((other.analyzer config catalog schedule).analyze address).run log = (s.outcome, log') := by
  obtain ⟨s, log', hrun, hvisited, hdetected⟩ := site.exists_run_ended config catalog schedule address log
  have hurls := hvisited.urls
  have hfound (url : String) :
      (∃ page ∈ s.visits, page.url = url) ↔ url ∈ site.addresses config address := by
    rw [← hurls, List.mem_map]
  have hanalyze : ((site.analyzer config catalog schedule).analyze address).run log = (s.outcome, log') :=
    run_bind_eq hrun
  have hsucceeded : s.succeeded = true ↔
      ∃ page ∈ s.visits, Address.isValid page.url = true ∧ ∃ e, site.page page.url = .ok e := by
    rw [hvisited.succeeded, List.any_eq_true, ← hurls]
    simp only [List.mem_map, exists_exists_and_eq_and, Option.isSome_iff_exists, answer?_eq_some_iff,
      exists_and_left]
  refine ⟨s, log', hrun, hanalyze, hurls ▸ hvisited.requests, ?_, ?_, ?_, ?_, ?_⟩
  · rw [s.outcome_eq_error_iff, ← hsucceeded, Bool.not_eq_true]
  · intro hsome
    rw [Session.outcome, if_pos (hsucceeded.2 hsome), hdetected, hurls, detectedAt]
  · intro page hpage
    rw [hvisited.visits] at hpage
    obtain ⟨url, -, rfl⟩ := List.mem_map.1 hpage
    rw [visitOf_url, visitOf]
    constructor
    · intro hfailed
      have hnone := answer?_eq_none_iff.2 hfailed
      simp only [hnone, failedStatus]
    · intro e hvalid hpage
      have hsome := answer?_eq_some_iff.2 ⟨hvalid, hpage⟩
      simp only [hsome]
  · intro page hpage hother
    obtain ⟨above, habove, hlink⟩ := exists_link_of_mem_take ((hfound page.url).1 ⟨page, hpage, rfl⟩) hother
    obtain ⟨visit, hvisit, rfl⟩ := (hfound above).2 habove
    unfold linksAt at hlink
    cases hanswer : site.answer? visit.url with
    | none => simp [hanswer] at hlink
    | some e =>
      obtain ⟨hvalid, hpage⟩ := answer?_eq_some_iff.1 hanswer
      exact ⟨visit, hvisit, hvalid, e, hpage, by simpa [hanswer] using hlink⟩
  · intro other hrender hvalues hpages
    have hsame : (other.analyzer config catalog schedule).run address =
        (site.analyzer config catalog schedule).run address :=
      Analyzer.run_congr (a := site.analyzer config catalog schedule)
        (b := other.analyzer config catalog schedule) rfl rfl rfl
        (visitPage_congr hrender hvalues hpages config catalog schedule) address
    rw [← hanalyze, Analyzer.analyze, Analyzer.analyze, hsame]

/-- A site with a link to a page that cannot be fetched. -/
def withBrokenLink (reason : String) : MemorySite :=
  (empty.withHtml "http://example.com" "<body><a href=/down></a></body>").withFailure
    "http://example.com/down" reason

/-- Whether the page was too slow or the connection was closed makes no difference. -/
theorem timeout_is_like_reset :
    let config := { Config.default with maxDepth := 1 }
    (((withBrokenLink "timeout").analyzer config sampleCatalog .inOrder).analyze
        "http://example.com").run ⟨[], 0⟩ =
      (((withBrokenLink "connection reset").analyzer config sampleCatalog .inOrder).analyze
        "http://example.com").run ⟨[], 0⟩ := by
  intro config
  have hpages (url : String) : ((withBrokenLink "timeout").page url).toOption =
      ((withBrokenLink "connection reset").page url).toOption := by
    simp only [withBrokenLink, withFailure, page, Table.get?_insert]
    by_cases hdown : compare (key url) (key "http://example.com/down") = .eq
    · simp only [hdown, if_true]
      rfl
    · simp only [hdown, if_false]
  obtain ⟨s, log', -, hanalyze, -, -, -, -, -, hother⟩ := failed_pages_leave_their_visits
    (withBrokenLink "connection reset") config sampleCatalog .inOrder "http://example.com" ⟨[], 0⟩
  rw [hanalyze]
  exact hother (withBrokenLink "timeout") rfl rfl hpages

end MemorySite

end SiteTech
