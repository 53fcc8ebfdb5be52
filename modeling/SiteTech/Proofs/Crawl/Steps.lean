import SiteTech.Crawl.Session

namespace SiteTech

theorem run_bind_eq {σ α β : Type} {x : StateM σ α} {f : α → StateM σ β} {before after : σ} {a : α}
    (hx : x.run before = (a, after)) : (x >>= f).run before = (f a).run after := by
  rw [StateT.run_bind, hx]
  rfl

/-- A number that is not the greatest one of 32 bits does not wrap around when it is counted up. -/
theorem toNat_add_one {n : UInt32} (hn : n.toNat + 1 < UInt32.size) : (n + 1).toNat = n.toNat + 1 := by
  rw [UInt32.toNat_add]
  exact Nat.mod_eq_of_lt hn

namespace Session

theorem visits_record_visit (s : Session) (page : PageStatus) :
    (s.record (.visit page)).visits = s.visits ++ [page] := by
  simp [record, visits]

theorem visits_of_events {s s' : Session} {page : PageStatus}
    (h : s'.events = s.events ++ [.visit page]) : s'.visits = s.visits ++ [page] := by
  simp [visits, h]

theorem visits_record_depth (s : Session) (depth : UInt32) :
    (s.record (.depth depth)).visits = s.visits := by
  simp [record, visits]

theorem visits_record_pause (s : Session) : (s.record .pause).visits = s.visits := by
  simp [record, visits]

theorem outcome_eq_error_iff (s : Session) :
    s.outcome = .error .allPagesFailed ↔ s.succeeded = false := by
  unfold outcome
  split <;> simp_all

theorem urls_of_outcome_eq_ok (s : Session) {report : Report} (h : s.outcome = .ok report) :
    report.urls = s.visits := by
  unfold outcome at h
  split at h
  · cases h
    rfl
  · cases h

/-- Taking in links visits nothing, and only links are waiting afterwards. -/
theorem enqueue_visits (s : Session) (links : List String) :
    (s.enqueue links).1.visits = s.visits ∧ ∀ url ∈ (s.enqueue links).2, url ∈ links := by
  induction links generalizing s with
  | nil => exact ⟨rfl, fun url h => h⟩
  | cons link links ih =>
    rw [enqueue]
    split
    · obtain ⟨hvisits, hmem⟩ := ih s
      exact ⟨hvisits, fun url h => List.mem_cons_of_mem _ (hmem url h)⟩
    · obtain ⟨hvisits, hmem⟩ := ih { s with known := link :: s.known }
      refine ⟨hvisits, fun url h => ?_⟩
      rcases List.mem_cons.1 h with rfl | h
      · exact List.mem_cons_self
      · exact List.mem_cons_of_mem _ (hmem url h)

theorem enqueue_detections (s : Session) (links : List String) :
    (s.enqueue links).1.detections = s.detections := by
  induction links generalizing s with
  | nil => rfl
  | cons link links ih =>
    rw [enqueue]
    split
    · exact ih s
    · exact ih { s with known := link :: s.known }

/-- Taking in links is no event, and counts no page. -/
theorem enqueue_records (s : Session) (links : List String) :
    (s.enqueue links).1.events = s.events ∧ (s.enqueue links).1.count = s.count ∧
      (s.enqueue links).1.exhausted = s.exhausted := by
  induction links generalizing s with
  | nil => exact ⟨rfl, rfl, rfl⟩
  | cons link links ih =>
    rw [enqueue]
    split
    · exact ih s
    · exact ih { s with known := link :: s.known }

/-- A session with one more page counted. -/
def counted (s : Session) : Session := { s with count := s.count + 1 }

end Session

namespace Analyzer

/-- What is done where an event is recorded. -/
def perform {m : Type → Type} [Monad m] (a : Analyzer m) : CrawlEvent → m Unit
  | .depth depth => a.fetcher.announceDepth depth
  | .visit page => do
    if Address.isValid page.url then
      let _ ← a.fetcher.scrape page.url
  | .pause => a.pause

section Visit

variable {σ : Type} (a : Analyzer (StateM σ))

/-- What is left behind by doing what events tell. -/
def after (events : List CrawlEvent) (env : σ) : σ :=
  events.foldl (fun env e => ((a.perform e).run env).2) env

theorem after_append (events more : List CrawlEvent) (env : σ) :
    a.after (events ++ more) env = a.after more (a.after events env) :=
  List.foldl_append

/-- Visiting an address records one visit, does what it tells, leaves the other records alone, and gives links that
some page under the address has. -/
theorem exists_visitPage_records (s : Session) (url : String) (env : σ) :
    ∃ s' links env' page, (a.visitPage s url).run env = ((s', links), env') ∧ page.url = url ∧
      s'.events = s.events ++ [.visit page] ∧ s'.count = s.count ∧ s'.exhausted = s.exhausted ∧
      env' = a.after [.visit page] env ∧ ∀ link ∈ links, ∃ e : Evidence, link ∈ e.linksFrom url := by
  unfold visitPage after perform
  by_cases hvalid : Address.isValid url
  · simp only [hvalid, if_true]
    rcases hscrape : (a.fetcher.scrape url).run env with ⟨answer, env'⟩
    rw [run_bind_eq hscrape]
    cases answer with
    | error fault =>
      refine ⟨_, [], env', ⟨url, failedStatus⟩, rfl, rfl, rfl, rfl, rfl, ?_, by simp⟩
      simp only [List.foldl_cons, List.foldl_nil, hvalid, if_true, run_bind_eq hscrape]
      rfl
    | ok e =>
      refine ⟨_, e.linksFrom url, env', ⟨url, e.page.status⟩, rfl, rfl, rfl, rfl, rfl, ?_, fun link h => ⟨e, h⟩⟩
      simp only [List.foldl_cons, List.foldl_nil, hvalid, if_true, run_bind_eq hscrape]
      rfl
  · simp only [hvalid, Bool.false_eq_true, if_false]
    refine ⟨_, [], env, ⟨url, failedStatus⟩, rfl, rfl, rfl, rfl, rfl, ?_, by simp⟩
    simp only [List.foldl_cons, List.foldl_nil, hvalid, Bool.false_eq_true, if_false]
    rfl

theorem visitPage_records {s s' : Session} {url : String} {links : List String} {env env' : σ}
    (hrun : (a.visitPage s url).run env = ((s', links), env')) :
    ∃ page, page.url = url ∧ s'.events = s.events ++ [.visit page] ∧ s'.count = s.count ∧
      s'.exhausted = s.exhausted ∧ env' = a.after [.visit page] env := by
  obtain ⟨s'', links', env'', page, hrun', hpage, hevents, hcount, hexhausted, henv, -⟩ :=
    a.exists_visitPage_records s url env
  cases hrun.symm.trans hrun'
  exact ⟨page, hpage, hevents, hcount, hexhausted, henv⟩

end Visit

variable {σ : Type} (a : Analyzer (StateM σ)) {s s' : Session} {links : List String} {env env' : σ}

/-- Crawling a level visits its first address, counts it and goes on, unless the limit is reached. -/
theorem run_crawlLevel_cons {url : String} {level found : List String}
    (hvisit : (a.visitPage s url).run env = ((s', links), env')) :
    (a.crawlLevel (url :: level) s found).run env =
      if a.config.maxPages ≤ s'.counted.count then
        (({ s'.counted with exhausted := true }, links.foldl Link.addNew found), env')
      else (a.crawlLevel level (s'.counted.record .pause) (links.foldl Link.addNew found)).run
        (a.pause.run env').2 := by
  rw [crawlLevel, run_bind_eq hvisit]
  by_cases hfull : a.config.maxPages ≤ s'.counted.count
  · rw [if_pos hfull]
    exact congrArg (StateT.run · env') (if_pos hfull)
  · rw [if_neg hfull]
    exact congrArg (StateT.run · env') (if_neg hfull)

variable {depth : UInt32} {level : List String}

theorem run_crawlFrom_zero
    (hlevel : (a.crawlLevel level (s.record (.depth depth)) []).run
      ((a.fetcher.announceDepth depth).run env).2 = ((s', links), env')) :
    (a.crawlFrom 0 depth level s).run env = (s', env') :=
  (run_bind_eq rfl).trans (run_bind_eq hlevel)

/-- After a level the analysis goes on with the links that are not known yet, if there are any and
the limit is not reached. -/
theorem run_crawlFrom_succ {deeper : Nat}
    (hlevel : (a.crawlLevel level (s.record (.depth depth)) []).run
      ((a.fetcher.announceDepth depth).run env).2 = ((s', links), env')) :
    (a.crawlFrom (deeper + 1) depth level s).run env =
      if s'.exhausted then (s', env')
      else if (s'.enqueue links).2.isEmpty then ((s'.enqueue links).1, env')
      else (a.crawlFrom deeper (depth + 1) (s'.enqueue links).2 (s'.enqueue links).1).run env' := by
  refine (run_bind_eq rfl).trans ((run_bind_eq hlevel).trans ?_)
  by_cases hexhausted : s'.exhausted
  · simp only [hexhausted, if_true]
    rfl
  · by_cases hempty : (s'.enqueue links).2.isEmpty
    · simp only [hexhausted, hempty, Bool.false_eq_true, if_false, if_true]
      rfl
    · simp only [hexhausted, hempty, Bool.false_eq_true, if_false]

end Analyzer

end SiteTech
