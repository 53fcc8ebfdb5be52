import SiteTech.Proofs.Crawl.Breadth
import SiteTech.Proofs.Crawl.Course
import SiteTech.Proofs.Crawl.Simulation
import SiteTech.Proofs.Crawl.Visits
import Mathlib.Data.List.Basic

namespace SiteTech

/-- Whether an event belongs to the pace of an analysis. The depths that are announced do not. -/
def CrawlEvent.isPaced : CrawlEvent → Bool
  | .depth _ => false
  | .visit _ => true
  | .pause => true

/-- The visits and the waits of an analysis, in order. -/
def Session.trace (s : Session) : List CrawlEvent := s.events.filter CrawlEvent.isPaced

/-- Visits with a wait after each of them. -/
def spaced (pages : List PageStatus) : List CrawlEvent := pages.flatMap fun page => [.visit page, .pause]

theorem spaced_concat (pages : List PageStatus) (page : PageStatus) :
    spaced (pages ++ [page]) = spaced pages ++ [.visit page, .pause] := by
  simp [spaced]

/-- Waits after all visits are waits between them and one at the end. -/
theorem spaced_eq {pages : List PageStatus} (h : pages ≠ []) :
    spaced pages = (pages.map CrawlEvent.visit).intersperse .pause ++ [.pause] := by
  induction pages with
  | nil => exact absurd rfl h
  | cons page pages ih =>
    cases pages with
    | nil => rfl
    | cons next pages =>
      have hrest := ih (List.cons_ne_nil next pages)
      rw [List.map_cons] at hrest
      rw [spaced, List.flatMap_cons, ← spaced, hrest, List.map_cons, List.map_cons,
        List.intersperse_cons_cons]
      rfl

/-- While an analysis goes on, it has waited after each of its visits; when it is exhausted, it has not waited
after the last one. -/
structure Session.KeepsPace (s : Session) : Prop where
  going : s.exhausted = false → s.trace = spaced s.visits
  ended : s.exhausted = true → s.trace ++ [.pause] = spaced s.visits

theorem Session.keepsPace_start (url : String) : (Session.start url).KeepsPace where
  going _ := rfl
  ended hend := by cases hend

theorem Session.KeepsPace.congr {s s' : Session} (h : s.KeepsPace) (htrace : s'.trace = s.trace)
    (hvisits : s'.visits = s.visits) (hexhausted : s'.exhausted = s.exhausted) : s'.KeepsPace where
  going hgo := by rw [htrace, hvisits, h.going (hexhausted ▸ hgo)]
  ended hend := by rw [htrace, hvisits, h.ended (hexhausted ▸ hend)]

theorem Analyzer.keeps_pace {σ : Type} (a : Analyzer (StateM σ)) : a.Keeps fun s _ => s.KeepsPace where
  announce s env depth hs :=
    hs.congr (by simp [Session.trace, Session.record, CrawlEvent.isPaced]) (s.visits_record_depth depth) rfl
  visit s url env s' links env' hopen hs hrun := by
    obtain ⟨page, -, hevents, -, hexhausted, -⟩ := a.visitPage_records hrun
    have htrace : s'.trace = s.trace ++ [.visit page] := by
      rw [Session.trace, hevents, List.filter_append]
      rfl
    have hspaced : s'.trace ++ [.pause] = spaced s'.visits := by
      rw [htrace, Session.visits_of_events hevents, spaced_concat, hs.going hopen, List.append_assoc]
      rfl
    refine ⟨fun _ => ⟨fun hgo => (by cases hgo), fun _ => hspaced⟩, fun _ => ⟨fun _ => ?_, fun hend => ?_⟩⟩
    · rw [Session.visits_record_pause, Session.trace, Session.record, List.filter_append]
      exact hspaced
    · have hgoing : s'.exhausted = false := hexhausted.trans hopen
      rw [Session.record, Session.counted, hgoing] at hend
      cases hend
  enqueue s env links hs := by
    obtain ⟨hevents, -, hexhausted⟩ := s.enqueue_records links
    exact hs.congr (by rw [Session.trace, hevents, Session.trace]) (s.enqueue_visits links).1 hexhausted

/-- The visits with a wait after each of them are the trace, but for a wait at the end if the greatest number of
pages is reached. -/
theorem Session.KeepsPace.trace_append {most : UInt32} {s : Session} (h : s.KeepsPace) (hcounts : s.Counts most)
    (hsome : s.visits ≠ []) :
    s.trace ++ (if most.toNat ≤ s.visits.length then [.pause] else []) = spaced s.visits := by
  have hfull : s.exhausted = true ↔ most.toNat ≤ s.visits.length :=
    hcounts.exhausted_iff.trans (and_iff_right hsome)
  split
  · rename_i hlimit
    exact h.ended (hfull.2 hlimit)
  · rename_i hroom
    rw [List.append_nil, h.going (Bool.eq_false_iff.2 fun hend => hroom (hfull.1 hend))]

/-- There is a wait between any two visits that follow on each other, and one at the end unless the greatest number
of pages is reached. -/
theorem Session.KeepsPace.trace_eq {most : UInt32} {s : Session} (h : s.KeepsPace) (hcounts : s.Counts most)
    (hsome : s.visits ≠ []) :
    s.trace = (s.visits.map CrawlEvent.visit).intersperse .pause ++
      (if most.toNat ≤ s.visits.length then [] else [.pause]) := by
  have happend := h.trace_append hcounts hsome
  rw [spaced_eq hsome] at happend
  split at happend
  · rename_i hlimit
    rw [if_pos hlimit, List.append_nil, List.append_cancel_right happend]
  · rename_i hroom
    rw [if_neg hroom, ← happend, List.append_nil]

/-- An analysis visits its start, keeps pace, counts its visits and does what its events tell. -/
theorem Analyzer.exists_run_paced {σ : Type} (a : Analyzer (StateM σ)) (address : String) (env : σ) :
    ∃ s env', (a.run address).run env = (s, env') ∧ s.visits ≠ [] ∧ s.Counts a.config.maxPages ∧
      s.KeepsPace ∧ env' = a.after s.events env := by
  have hstart := Session.counts_start a.config.maxPages (Address.normalize address)
  have hpace := Session.keepsPace_start (Address.normalize address)
  obtain ⟨s, env', hrun, ⟨hcounts, hpaced⟩, hafter⟩ :=
    ((a.keeps_counts.and a.keeps_pace).and (a.keeps_recorded env)).run address env ⟨⟨hstart, hpace⟩, rfl⟩
  have hany (url : String) : LeadsTo (fun _ => True) url := fun _ _ _ => trivial
  obtain ⟨first, rest, hvisits, -⟩ :=
    a.exists_run_visits (hany (Address.normalize address)) (fun url _ => hany url) env
  rw [hrun] at hvisits
  exact ⟨s, env', hrun, by simp [hvisits], hcounts, hpaced, hafter⟩

namespace MemorySite

/-- What an analysis of pages in memory does that others can see: it asks for a page, or waits for a number of
milliseconds. -/
inductive Action where
  | request (url : String)
  | wait (milliseconds : UInt64)
deriving DecidableEq, Repr

/-- The log of a site, and what has been done in the course of time. -/
structure Timeline where
  log : MemoryLog
  actions : List Action

/-- Fetching from memory, with the requests noted in the course of time. -/
def timedFetcher (site : MemorySite) : Fetcher (StateM Timeline) :=
  { canRender := site.canRender
    evaluate := site.evaluate
    announceDepth := fun depth => do
      let time ← get
      set { time with log := ((site.fetcher.announceDepth depth).run time.log).2 }
    scrape := fun url => do
      let time ← get
      let (answer, log) := (site.fetcher.scrape url).run time.log
      set (⟨log, time.actions ++ [.request url]⟩ : Timeline)
      return answer }

/-- An analysis of the pages that waits between two of them as long as its settings say. -/
def timedAnalyzer (site : MemorySite) (config : Config) (catalog : Catalog) (schedule : Schedule) :
    Analyzer (StateM Timeline) :=
  { config := config
    catalog := catalog
    schedule := schedule
    fetcher := site.timedFetcher
    pause := modify fun time => { time with actions := time.actions ++ [.wait config.delay] } }

/-- What is done where an event is recorded, if waits have a length. -/
def actionsOf (delay : UInt64) : CrawlEvent → List Action
  | .depth _ => []
  | .visit page => if Address.isValid page.url then [.request page.url] else []
  | .pause => [.wait delay]

variable {site : MemorySite} {config : Config} {catalog : Catalog} {schedule : Schedule}

/-- Something has the same result and leaves the same log, whether what is done in the course of time is noted or
not. -/
def SameLog {α : Type} (x : StateM Timeline α) (y : StateM MemoryLog α) : Prop :=
  ∀ time : Timeline, y.run time.log = ((x.run time).1, (x.run time).2.log)

/-- An analysis in the course of time is the one that does not wait, as far as its result and the log go. -/
theorem simulates_timedAnalyzer (site : MemorySite) (config : Config) (catalog : Catalog)
    (schedule : Schedule) :
    Analyzer.Simulates SameLog (site.timedAnalyzer config catalog schedule)
      (site.analyzer config catalog schedule) where
  answer _ _ := rfl
  next hx hrest time := (run_bind_eq (hx time)).trans (hrest _ _)
  config := rfl
  catalog := rfl
  schedule := rfl
  probe := rfl
  announceDepth _ _ := rfl
  scrape _ _ := rfl
  pause _ := rfl

/-- In the course of time, what events tell is done in their order. -/
theorem actions_after (events : List CrawlEvent) (time : Timeline) :
    ((site.timedAnalyzer config catalog schedule).after events time).actions =
      time.actions ++ events.flatMap (actionsOf config.delay) := by
  induction events generalizing time with
  | nil => simp [Analyzer.after]
  | cons event events ih =>
    have hstep : ((((site.timedAnalyzer config catalog schedule).perform event).run time).2).actions =
        time.actions ++ actionsOf config.delay event := by
      cases event with
      | depth depth => simp [Analyzer.perform, actionsOf]; rfl
      | visit page =>
        unfold Analyzer.perform actionsOf
        by_cases hvalid : Address.isValid page.url
        · simp only [hvalid, if_true]
          rfl
        · simp only [hvalid, Bool.false_eq_true, if_false, List.append_nil]
          rfl
      | pause => rfl
    rw [Analyzer.after, List.foldl_cons, ← Analyzer.after, ih, hstep, List.flatMap_cons, List.append_assoc]

/-- Depths are announced without anything that others can see. -/
theorem flatMap_actionsOf_trace (s : Session) (delay : UInt64) :
    s.trace.flatMap (actionsOf delay) = s.events.flatMap (actionsOf delay) := by
  rw [Session.trace]
  induction s.events with
  | nil => rfl
  | cons event events ih => cases event <;> simp [List.filter_cons, CrawlEvent.isPaced, actionsOf, ih]

/-- As many waits are made as there are visits with a wait after each of them. -/
theorem count_wait_spaced (pages : List PageStatus) (delay : UInt64) :
    ((spaced pages).flatMap (actionsOf delay)).count (.wait delay) = pages.length := by
  induction pages with
  | nil => rfl
  | cons page pages ih =>
    have hvisit : (actionsOf delay (.visit page)).count (.wait delay) = 0 := by
      rw [actionsOf]
      split <;> rfl
    have hwait : (actionsOf delay .pause).count (.wait delay) = 1 := List.count_singleton_self
    rw [spaced, List.flatMap_cons, ← spaced, List.flatMap_append, List.count_append, ih, List.flatMap_cons,
      List.flatMap_singleton, List.count_append, hvisit, hwait, List.length_cons]
    omega

theorem count_wait_trace {most : UInt32} {s : Session} (h : s.KeepsPace) (hcounts : s.Counts most)
    (hsome : s.visits ≠ []) (delay : UInt64) :
    (s.trace.flatMap (actionsOf delay)).count (.wait delay) =
      if most.toNat ≤ s.visits.length then s.visits.length - 1 else s.visits.length := by
  have hwaits := count_wait_spaced s.visits delay
  rw [← h.trace_append hcounts hsome, List.flatMap_append, List.count_append] at hwaits
  by_cases hlimit : most.toNat ≤ s.visits.length
  · have hone : (List.flatMap (actionsOf delay) [.pause]).count (.wait delay) = 1 := by simp [actionsOf]
    rw [if_pos hlimit, hone] at hwaits
    rw [if_pos hlimit]
    omega
  · rw [if_neg hlimit] at hwaits ⊢
    exact hwaits

/-- An analysis of pages in memory waits exactly once between any two visits that follow on each other, not before the
first one, and after the last one unless the greatest number of pages is reached. What it does in the course of time
is what these visits and waits tell: each wait has the length that is set, and their number is that of the visits, or
one less if the greatest number of pages is reached. But for the waits it is the analysis without them. -/
theorem visits_are_paced (site : MemorySite) (config : Config) (catalog : Catalog) (schedule : Schedule)
    (address : String) (before : Timeline) :
    ∃ s after actions, ((site.timedAnalyzer config catalog schedule).run address).run before = (s, after) ∧
      ((site.timedAnalyzer config catalog schedule).analyze address).run before = (s.outcome, after) ∧
      ((site.analyzer config catalog schedule).run address).run before.log = (s, after.log) ∧
      s.visits ≠ [] ∧
      s.trace = (s.visits.map CrawlEvent.visit).intersperse .pause ++
        (if config.maxPages.toNat ≤ s.visits.length then [] else [.pause]) ∧
      after.actions = before.actions ++ actions ∧
      actions = s.trace.flatMap (actionsOf config.delay) ∧
      actions.count (.wait config.delay) =
        if config.maxPages.toNat ≤ s.visits.length then s.visits.length - 1 else s.visits.length := by
  obtain ⟨s, after, hrun, hsome, hcounts, hpace, hafter⟩ :=
    (site.timedAnalyzer config catalog schedule).exists_run_paced address before
  have hsame := (simulates_timedAnalyzer site config catalog schedule).run address before
  rw [hrun] at hsame
  have hactions : after.actions = before.actions ++ s.trace.flatMap (actionsOf config.delay) := by
    rw [hafter, actions_after, flatMap_actionsOf_trace]
  exact ⟨s, after, _, hrun, run_bind_eq hrun, hsame, hsome, hpace.trace_eq hcounts hsome, hactions, rfl,
    count_wait_trace hpace hcounts hsome config.delay⟩

end MemorySite

end SiteTech
