import SiteTech.Proofs.Crawl.Transparency
import SiteTech.Proofs.Crawl.Visits

namespace SiteTech

open Http (Network Request)

open WebFetcher (Call)

/-- The calls that are made where an event is recorded. -/
def CrawlEvent.calls : CrawlEvent → List Call
  | .depth d => [.announce d]
  | .visit page => if Address.isValid page.url then [.scrape page.url] else []
  | .pause => []

/-- The links that the answer to the fetch of an address gives. -/
def linksOf (url : String) : Except Error Evidence → List String
  | .error _ => []
  | .ok e => e.linksFrom url

/-- The calls of an analysis, in order. -/
def Session.calls (s : Session) : List Call := s.events.flatMap CrawlEvent.calls

/-- Below the start, only addresses with a property are visited by events that are recorded when a depth
has been announced. -/
def BelowStart (P : String → Prop) : UInt32 → List CrawlEvent → Prop
  | _, [] => True
  | _, .depth d :: rest => BelowStart P d rest
  | d, .visit page :: rest => (d ≠ 0 → P page.url) ∧ BelowStart P d rest
  | d, .pause :: rest => BelowStart P d rest

theorem BelowStart.append {P : String → Prop} {depth : UInt32} {events more : List CrawlEvent}
    (h : BelowStart P depth events) (hmore : ∀ depth, BelowStart P depth more) :
    BelowStart P depth (events ++ more) := by
  induction events generalizing depth with
  | nil => exact hmore depth
  | cons event events ih =>
    cases event with
    | depth d => exact ih h
    | visit page => exact ⟨h.1, ih h.2⟩
    | pause => exact ih h

/-- An analysis over a network, with a way to wait between two pages. -/
def Assignment.analyzer {m : Type → Type} [Monad m] (task : Assignment) (f : WebFetcher m)
    (pause : m Unit) : Analyzer (StateT WebState m) :=
  ⟨task.config, task.catalog, task.schedule, f.fetcher, monadLift pause⟩

namespace WebFetcher

/-- Calls lead from one state and record to another one. -/
def Leads (f : WebFetcher (StateM (List Request))) (calls : List Call) (web : WebState)
    (log : List Request) (web' : WebState) (log' : List Request) : Prop :=
  ((forM calls f.call).run web).run log = (((), web'), log')

variable {f : WebFetcher (StateM (List Request))} {calls more : List Call} {web web' web'' : WebState}
  {log log' log'' : List Request}

theorem Leads.nil : f.Leads [] web log web log := rfl

theorem Leads.append (h : f.Leads calls web log web' log') (hmore : f.Leads more web' log' web'' log'') :
    f.Leads (calls ++ more) web log web'' log'' := by
  rw [Leads, List.forM_append]
  exact (run_run_bind_eq h).trans hmore

theorem leads_announce (depth : UInt32) :
    f.Leads [.announce depth] web log { web with depth := depth } log := rfl

theorem leads_scrape {address : String} {result : Except Error Evidence}
    (h : ((f.scrape address).run web).run log = ((result, web'), log')) :
    f.Leads [.scrape address] web log web' log' := by
  have hcall : ((f.call (.scrape address)).run web).run log = (((), web'), log') := run_run_bind_eq h
  rw [Leads, List.forM_cons]
  exact run_run_bind_eq hcall

end WebFetcher

/-- Fetching with the usual settings is ready when it has been set up. -/
theorem WebFetcher.init_default (network : Network (StateM (List Request))) :
    (((⟨Config.default, network⟩ : WebFetcher (StateM (List Request))).init.run .start).run []).1.2 =
      { WebState.start with ready := true } := by
  have hname : Http.isUserAgent Config.default.userAgent = true := by decide +kernel
  simp only [init, hname]
  rfl

/-- The first page leads where the links in its text lead, if it is found where it was asked for. -/
theorem WebFetcher.exists_pageAt_start {f : WebFetcher (StateM (List Request))} {address html found : String}
    {url : Url} (hurl : Url.ofText address = .ok url)
    (hanswer : (answerOf (f.fetchPage address url)).toOption.map (fun e => (e.html, e.page.url)) =
      some (html, found))
    (hfound : Address.normalize found = Address.normalize address) :
    ∃ e, f.pageAt true 0 address = .ok e ∧ e.linksFrom address = Link.ofPage html url := by
  obtain ⟨e, he, hseen⟩ := Option.map_eq_some_iff.1 hanswer
  obtain ⟨rfl, rfl⟩ := Prod.mk.inj hseen
  have hok : answerOf (f.fetchPage address url) = .ok e := by
    cases hresult : answerOf (f.fetchPage address url) with
    | error fault =>
      rw [hresult] at he
      cases he
    | ok e' =>
      rw [hresult] at he
      exact congrArg Except.ok (Option.some.inj he)
  refine ⟨e, ?_, ?_⟩
  · simp only [WebFetcher.pageAt, hurl, hok]
    rfl
  · simp only [Evidence.linksFrom, hurl, hfound, if_true]

namespace Assignment

open WebFetcher (Leads)

variable {f : WebFetcher (StateM (List Request))} {web web' : WebState} {log log' : List Request}
  {P : String → Prop} (task : Assignment) (hP : ∀ url, LeadsTo P url)

/-- Visiting an address fetches it, and gives the links that are found there. -/
theorem exists_visitPage_of_scrape {url : String} (hvalid : Address.isValid url = true) (s : Session)
    {result : Except Error Evidence} (hscrape : ((f.scrape url).run web).run log = ((result, web'), log')) :
    ∃ s' status,
      (((task.analyzer f (pure ())).visitPage s url).run web).run log =
        (((s', linksOf url result), web'), log') ∧
      s'.events = s.events ++ [.visit ⟨url, status⟩] ∧ s'.known = s.known ∧ s'.count = s.count ∧
      s'.exhausted = s.exhausted := by
  unfold Analyzer.visitPage
  rw [if_pos hvalid]
  cases result with
  | error fault => exact ⟨_, failedStatus, run_run_bind_eq hscrape, rfl, rfl, rfl, rfl⟩
  | ok e => exact ⟨_, e.page.status, run_run_bind_eq hscrape, rfl, rfl, rfl, rfl⟩

include hP

/-- Visiting an address makes the calls of its visit, and gives links that have the property. -/
theorem exists_visitPage (s : Session) (url : String) (web : WebState) (log : List Request) :
    ∃ s' links web' log' page,
      (((task.analyzer f (pure ())).visitPage s url).run web).run log = (((s', links), web'), log') ∧
      page.url = url ∧ s'.events = s.events ++ [.visit page] ∧
      f.Leads (CrawlEvent.visit page).calls web log web' log' ∧ ∀ link ∈ links, P link := by
  by_cases hvalid : Address.isValid url = true
  · rcases hscrape : ((f.scrape url).run web).run log with ⟨⟨result, web'⟩, log'⟩
    obtain ⟨s', status, hrun, hevents, -⟩ := task.exists_visitPage_of_scrape hvalid s hscrape
    refine ⟨s', _, web', log', ⟨url, status⟩, hrun, rfl, hevents, ?_, ?_⟩
    · simpa [CrawlEvent.calls, hvalid] using WebFetcher.leads_scrape hscrape
    · cases result with
      | error fault => exact fun link hlink => absurd hlink List.not_mem_nil
      | ok e => exact hP url e
  · unfold Analyzer.visitPage CrawlEvent.calls
    simp only [hvalid, Bool.false_eq_true, if_false]
    exact ⟨_, [], web, log, ⟨url, failedStatus⟩, rfl, rfl, rfl, by simpa [hvalid] using Leads.nil, by simp⟩

/-- Crawling a level makes the calls of its events, which visit addresses of the level only, and gives
links that have the property. -/
theorem exists_crawlLevel {depth : UInt32} {level found : List String}
    (hlevel : depth ≠ 0 → ∀ url ∈ level, P url) (hfound : ∀ link ∈ found, P link) (s : Session)
    (web : WebState) (log : List Request) :
    ∃ s' found' web' log' events,
      (((task.analyzer f (pure ())).crawlLevel level s found).run web).run log =
        (((s', found'), web'), log') ∧
      s'.events = s.events ++ events ∧ f.Leads (events.flatMap CrawlEvent.calls) web log web' log' ∧
      BelowStart P depth events ∧ ∀ link ∈ found', P link := by
  induction level generalizing s found web log with
  | nil => exact ⟨s, found, web, log, [], rfl, by simp, .nil, trivial, hfound⟩
  | cons url level ih =>
    obtain ⟨visited, links, web', log', page, hrun, hpage, hevents, hleads, hlinks⟩ :=
      task.exists_visitPage (f := f) hP s url web log
    have hmore : ∀ link ∈ links.foldl Link.addNew found, P link := by
      intro link hlink
      rcases Link.mem_foldl_addNew.1 hlink with hlink | hlink
      · exact hfound link hlink
      · exact hlinks link hlink
    have hthis : depth ≠ 0 → P page.url := by
      intro hdepth
      rw [hpage]
      exact hlevel hdepth url List.mem_cons_self
    rw [Analyzer.crawlLevel, run_run_bind_eq hrun]
    dsimp only
    split
    · refine ⟨_, _, web', log', [.visit page], rfl, hevents, ?_, ⟨hthis, trivial⟩, hmore⟩
      rw [List.flatMap_singleton]
      exact hleads
    · obtain ⟨s', found', web'', log'', events, hrest, hevents', hleads', hbelow, hfound'⟩ :=
        ih (fun hdepth url hurl => hlevel hdepth url (List.mem_cons_of_mem _ hurl)) hmore
          (visited.counted.record .pause) web' log'
      refine ⟨s', found', web'', log'', .visit page :: .pause :: events, hrest, ?_, ?_, ⟨hthis, hbelow⟩,
        hfound'⟩
      · rw [hevents', Session.record, Session.counted, hevents]
        simp
      · rw [List.flatMap_cons]
        exact hleads.append hleads'

/-- Announcing a depth and crawling the level makes the calls of the events that are recorded. -/
theorem exists_announced_crawlLevel {depth : UInt32} {level : List String}
    (hlevel : depth ≠ 0 → ∀ url ∈ level, P url) (s : Session) (web : WebState) (log : List Request) :
    ∃ s' links web' log' events,
      (((task.analyzer f (pure ())).crawlLevel level (s.record (.depth depth)) []).run
        { web with depth := depth }).run log = (((s', links), web'), log') ∧
      s'.events = s.events ++ events ∧ f.Leads (events.flatMap CrawlEvent.calls) web log web' log' ∧
      (∀ d, BelowStart P d events) ∧ ∀ link ∈ links, P link := by
  have hnone : ∀ link ∈ ([] : List String), P link := by simp
  obtain ⟨s', links, web', log', events, hrun, hevents, hleads, hbelow, hlinks⟩ :=
    task.exists_crawlLevel (f := f) hP hlevel hnone (s.record (.depth depth)) { web with depth := depth } log
  refine ⟨s', links, web', log', .depth depth :: events, hrun, ?_, ?_, fun d => hbelow, hlinks⟩
  · rw [hevents, Session.record, List.append_assoc, List.singleton_append]
  · rw [List.flatMap_cons]
    exact (WebFetcher.leads_announce depth).append hleads

/-- Crawling from a level on makes the calls of its events. Below the start it only visits addresses that
have the property. -/
theorem exists_crawlFrom {deeper : Nat} {depth : UInt32} {level : List String}
    (hlevel : depth ≠ 0 → ∀ url ∈ level, P url) (s : Session) (web : WebState) (log : List Request) :
    ∃ s' web' log' events,
      (((task.analyzer f (pure ())).crawlFrom deeper depth level s).run web).run log = ((s', web'), log') ∧
      s'.events = s.events ++ events ∧ f.Leads (events.flatMap CrawlEvent.calls) web log web' log' ∧
      ∀ d, BelowStart P d events := by
  -- Every level but the first comes from links, so the depth does not matter for it.
  induction deeper generalizing depth level s web log with
  | zero =>
    obtain ⟨s', links, web', log', events, hrun, hevents, hleads, hbelow, -⟩ :=
      task.exists_announced_crawlLevel (f := f) hP hlevel s web log
    exact ⟨s', web', log', events, (run_run_bind_eq rfl).trans (run_run_bind_eq hrun), hevents, hleads, hbelow⟩
  | succ deeper ih =>
    obtain ⟨s', links, web', log', events, hrun, hevents, hleads, hbelow, hlinks⟩ :=
      task.exists_announced_crawlLevel (f := f) hP hlevel s web log
    have hqueued := (s'.enqueue_records links).1
    have hnext := (s'.enqueue_visits links).2
    have hannounce : (((task.analyzer f (pure ())).fetcher.announceDepth depth).run web).run log =
        (((), { web with depth := depth }), log) := rfl
    rw [Analyzer.crawlFrom, run_run_bind_eq hannounce, run_run_bind_eq hrun]
    dsimp only
    split
    · exact ⟨s', web', log', events, rfl, hevents, hleads, hbelow⟩
    · split
      · exact ⟨_, web', log', events, rfl, hqueued.trans hevents, hleads, hbelow⟩
      · obtain ⟨s'', web'', log'', events', hdeeper, hevents', hleads', hbelow'⟩ :=
          ih (fun _ url hurl => hlinks url (hnext url hurl)) (s'.enqueue links).1 web' log'
        refine ⟨s'', web'', log'', events ++ events', hdeeper, ?_, ?_, fun d => (hbelow d).append hbelow'⟩
        · rw [hevents', hqueued, hevents, List.append_assoc]
        · rw [List.flatMap_append]
          exact hleads.append hleads'

/-- An analysis leaves what the calls of its events leave. Below the start it only visits addresses that
have the property. -/
theorem leads_run (web : WebState) (log : List Request) :
    let done := (((task.analyzer f (pure ())).run task.address).run web).run log
    f.Leads done.1.1.calls web log done.1.2 done.2 ∧ ∀ d, BelowStart P d done.1.1.events := by
  intro done
  obtain ⟨s', web', log', events, hrun, hevents, hleads, hbelow⟩ :=
    task.exists_crawlFrom (f := f) hP (fun h => absurd rfl h) (Session.start (Address.normalize task.address))
      web log
  have hdone : done = ((s', web'), log') := hrun
  rw [Session.start, List.nil_append] at hevents
  rw [hdone, Session.calls, hevents]
  exact ⟨hleads, hbelow⟩

omit hP

/-- An analysis over a network whose answers never change makes the requests of the errands of its calls. -/
theorem requests_run {ready : Bool} (hf : f.network.Steady) (h : f.Holds ready web) :
    let done := (((task.analyzer f (pure ())).run task.address).run web).run []
    done.2 = (f.errandsOf web done.1.1.calls).flatMap f.requestsOf := by
  intro done
  have hleads : f.Leads done.1.1.calls web [] done.1.2 done.2 :=
    (task.leads_run (fun _ _ _ _ => trivial) web []).1
  obtain ⟨s, hrecords, -⟩ := WebFetcher.run_calls hf h done.1.1.calls
  have hlog := congrArg Prod.snd (hleads.symm.trans (hrecords []))
  exact hlog

/-- Crawling a level of one page fetches this page, and gives its links, each once. -/
theorem exists_crawlLevel_single {url : String} (hvalid : Address.isValid url = true) {s : Session}
    (hpages : ¬task.config.maxPages ≤ s.count + 1) {result : Except Error Evidence}
    (hscrape : ((f.scrape url).run web).run log = ((result, web'), log')) :
    ∃ s',
      (((task.analyzer f (pure ())).crawlLevel [url] s []).run web).run log =
        (((s', (linksOf url result).eraseDups), web'), log') ∧
      s'.calls = s.calls ++ [.scrape url] ∧ s'.known = s.known ∧ s'.count = s.count + 1 ∧
      s'.exhausted = s.exhausted := by
  obtain ⟨visited, status, hvisit, hevents, hknown, hcount, hexhausted⟩ :=
    task.exists_visitPage_of_scrape hvalid s hscrape
  have hmore : ¬(task.analyzer f (pure ())).config.maxPages ≤ visited.count + 1 := hcount ▸ hpages
  have hcalls : (visited.counted.record .pause).calls = s.calls ++ [.scrape url] := by
    simp [Session.calls, Session.record, Session.counted, CrawlEvent.calls, hevents, hvalid]
  rw [Analyzer.crawlLevel, run_run_bind_eq hvisit]
  dsimp only
  rw [if_neg hmore, Link.foldl_addNew]
  exact ⟨_, rfl, hcalls, hknown, congrArg (· + 1) hcount, hexhausted⟩

/-- An analysis that goes one level below its start calls for the start page and, if there is one link
on it, for the page that it leads to. -/
theorem calls_of_one_link {start link : String} (hdepth : task.config.maxDepth = 1)
    (hpages : ¬task.config.maxPages ≤ 2) (hstart : Address.normalize task.address = start)
    (hvalid : Address.isValid start = true) (hlink : Address.isValid link = true) (hother : link ≠ start)
    {e : Evidence} (hscrape : ((f.scrape start).run { web with depth := 0 }).run log = ((.ok e, web'), log'))
    (hlinks : e.linksFrom start = [link]) :
    ((((task.analyzer f (pure ())).run task.address).run web).run log).1.1.calls =
      [.announce 0, .scrape start, .announce 1, .scrape link] := by
  -- The first level is the start page.
  obtain ⟨first, hfirst, hcalls, hknown, hcount, hexhausted⟩ :=
    task.exists_crawlLevel_single hvalid (s := (Session.start start).record (.depth 0))
      (fun h => hpages (UInt32.le_trans h (show (0 + 1 : UInt32) ≤ 2 by decide))) hscrape
  have hfound : (linksOf start (.ok e)).eraseDups = [link] := by
    rw [linksOf, hlinks]
    rfl
  rw [hfound] at hfirst
  have hnew : link ∉ first.known := by
    rw [hknown]
    exact mt List.mem_singleton.1 hother
  have hnext : first.enqueue [link] = ({ first with known := link :: first.known }, [link]) := by
    simp [Session.enqueue, hnew]
  -- The second one is the page that the link leads to.
  rcases hsecond : ((f.scrape link).run { web' with depth := 1 }).run log' with ⟨⟨result, web''⟩, log''⟩
  obtain ⟨second, hrest, hcalls', -⟩ :=
    task.exists_crawlLevel_single hlink (s := (first.enqueue [link]).1.record (.depth 1))
      (fun h => hpages (by simpa [hnext, Session.record, hcount, Session.start] using h)) hsecond
  have hrun : (((task.analyzer f (pure ())).run task.address).run web).run log = ((second, web''), log'') := by
    have hlevels : (task.analyzer f (pure ())).config.maxDepth.toNat = 1 := by
      rw [Assignment.analyzer, hdepth]
      rfl
    have hannounce (depth : UInt32) (w : WebState) (l : List Request) :
        (((task.analyzer f (pure ())).fetcher.announceDepth depth).run w).run l =
          (((), { w with depth := depth }), l) := rfl
    rw [Analyzer.run, hstart, hlevels, Analyzer.crawlFrom, run_run_bind_eq (hannounce 0 web log),
      run_run_bind_eq hfirst]
    dsimp only
    rw [hexhausted, hnext]
    rw [hnext] at hrest
    exact (run_run_bind_eq (hannounce 1 web' log')).trans (run_run_bind_eq hrest)
  have hdepthCalls (s : Session) (depth : UInt32) :
      (s.record (.depth depth)).calls = s.calls ++ [.announce depth] := by
    simp [Session.calls, Session.record, CrawlEvent.calls]
  have hqueued : (first.enqueue [link]).1.calls = first.calls := by rw [hnext]; rfl
  rw [hrun, hcalls', hdepthCalls, hqueued, hcalls, hdepthCalls]
  rfl

end Assignment

end SiteTech
