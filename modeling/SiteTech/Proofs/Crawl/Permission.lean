import SiteTech.Proofs.Crawl.Calls
import SiteTech.Proofs.Crawl.Confinement
import SiteTech.Proofs.Http.Hops

namespace SiteTech

open Http (Network Request)

/-- An address is that of a web page and names no user and no part of the page. -/
def Address.IsBare (address : String) : Prop :=
  ∀ url, Url.ofText address = .ok url → url.isWeb = true ∧ Http.bare url = url

/-- All links that are taken are such addresses. -/
theorem leadsTo_isBare (url : String) : LeadsTo Address.IsBare url := by
  intro e link hlink v hv
  obtain ⟨page, text, hpage, hresolve⟩ := Link.exists_of_mem_linksFrom hlink
  obtain ⟨target, htarget, hweb, -, -, rfl⟩ := Link.exists_target_of_resolve hresolve
  have hform : target.IsWebForm := Url.isWebForm_of_join hpage htarget hweb
  obtain ⟨hvweb, husername, hpassword, hfragment⟩ := Url.bare_of_ofText_canonical hweb hform hv
  refine ⟨hvweb, ?_⟩
  cases v
  simp only at husername hpassword hfragment
  subst husername hpassword hfragment
  rfl

namespace WebFetcher

/-- Fetching a page keeps to the file for robots of its origin: the file lets us fetch the page, and all
that is asked for besides is where an answer sends on to. -/
def FetchesPermitted (f : WebFetcher (StateM (List Request))) (network : Network Id) (url : Url) : Prop :=
  f.permits url = true ∧
    ∃ hops, f.requestsOf (.page url) = ⟨url, f.config.userAgent⟩ :: hops ∧ hops.length ≤ Http.maxHops ∧
      (⟨url, f.config.userAgent⟩ :: hops).IsChain network.SendsOn

/-- Calls keep to the files for robots: each page that they fetch below the start is fetched so. -/
def KeepsToRobots (f : WebFetcher (StateM (List Request))) (network : Network Id) :
    WebState → List Call → Prop
  | _, [] => True
  | s, call :: rest =>
    (∀ url, s.depth ≠ 0 → .page url ∈ f.errandsFor s call → f.FetchesPermitted network url) ∧
      f.KeepsToRobots network (f.after s call) rest

theorem page_mem_errands {f : WebFetcher (StateM (List Request))} {s : WebState} {address : String}
    {url : Url} (h : .page url ∈ f.errands s address) :
    Url.ofText address = .ok url ∧ (s.depth = 0 ∨ f.permits url = true) := by
  unfold errands at h
  split at h
  · cases h
  · split at h
    · cases h
    · rename_i url' hurl
      rcases List.mem_append.1 h with h | h
      · split at h
        · cases h
        · cases List.mem_singleton.1 h
      · split at h
        · rename_i hallowed
          cases List.mem_singleton.1 h
          exact ⟨hurl, hallowed⟩
        · cases h

variable {config : Config} {network : Network Id} {ready : Bool} {s : WebState}

theorem fetchesPermitted_of_mem_errands {address : String} {url : Url} (hbare : Address.IsBare address)
    (hdepth : s.depth ≠ 0)
    (h : .page url ∈ (⟨config, network.recorded⟩ : WebFetcher (StateM (List Request))).errands s address) :
    (⟨config, network.recorded⟩ : WebFetcher (StateM (List Request))).FetchesPermitted network url := by
  obtain ⟨hurl, hallowed⟩ := page_mem_errands h
  obtain ⟨hweb, hsame⟩ := hbare url hurl
  have hrequests := network.exists_requestsOf_eq config.userAgent (hsame.symm ▸ hweb)
  rw [hsame] at hrequests
  exact ⟨hallowed.resolve_left hdepth, hrequests⟩

/-- The calls of events keep to the files for robots if bare addresses alone are visited below the
start. -/
theorem keepsToRobots_of_belowStart {events : List CrawlEvent}
    (h : (⟨config, network.recorded⟩ : WebFetcher (StateM (List Request))).Holds ready s)
    (hbelow : BelowStart Address.IsBare s.depth events) :
    (⟨config, network.recorded⟩ : WebFetcher (StateM (List Request))).KeepsToRobots network s
      (events.flatMap CrawlEvent.calls) := by
  induction events generalizing s with
  | nil => trivial
  | cons event events ih =>
    cases event with
    | depth d => exact ⟨fun url _ hmem => absurd hmem List.not_mem_nil, ih (h.announce d) hbelow⟩
    | pause => exact ih h hbelow
    | visit page =>
      obtain ⟨hpage, hbelow⟩ := hbelow
      rw [List.flatMap_cons, CrawlEvent.calls]
      split
      · -- What was fetched leaves the depth as it was, and what is known of files for robots stays right.
        obtain ⟨-, hholds, hdepth, -⟩ := run_call_scrape network.steady_recorded h page.url
        refine ⟨fun url hbelowStart hmem => ?_, ih hholds (hdepth.symm ▸ hbelow)⟩
        exact fetchesPermitted_of_mem_errands (hpage hbelowStart) hbelowStart hmem
      · exact ih h hbelow

end WebFetcher

/-- Let fetching be set up over a network whose answers never change, and let any calls come before an
analysis. The analysis leaves what the calls of its events leave, and the requests that it makes are those
of their errands. Each page that is fetched while the depth is not that of the start is one that the file
for robots of its origin lets us fetch; after the request for this page, only addresses are asked for that
answers send on to. -/
theorem analysis_keeps_to_robots (config : Config) (network : Network Id) (earlier : List WebFetcher.Call)
    (task : Assignment) :
    let f : WebFetcher (StateM (List Request)) := ⟨config, network.recorded⟩
    let fresh := ((f.init.run .start).run []).1.2
    let start := (((forM earlier f.call).run fresh).run []).1.2
    let done := (((task.analyzer f (pure ())).run task.address).run start).run []
    f.Leads done.1.1.calls start [] done.1.2 done.2 ∧
      done.2 = (f.errandsOf start done.1.1.calls).flatMap f.requestsOf ∧
      f.KeepsToRobots network start done.1.1.calls := by
  intro f fresh start done
  have hf : f.network.Steady := network.steady_recorded
  obtain ⟨s, hearlier, hs, -⟩ := WebFetcher.run_calls hf f.holds_init earlier
  have hstart : f.Holds fresh.ready start := by
    have hsame : start = s := congrArg (fun run => run.1.2) (hearlier [])
    rwa [hsame]
  obtain ⟨hleads, hbelow⟩ := task.leads_run (f := f) leadsTo_isBare start []
  exact ⟨hleads, task.requests_run hf hstart,
    WebFetcher.keepsToRobots_of_belowStart hstart (hbelow start.depth)⟩

/-- A site with a link to a page that sends on to another one, which the file for robots forbids. -/
def detourSite : Network Id where
  deliver request :=
    if request.url = Url.examplePage ["robots.txt".toList] then
      .answered ⟨200, [], Text.encode "User-agent: *\nDisallow: /secret", false, none⟩
    else if request.url = Url.examplePage ["a".toList] then
      .answered ⟨302, [⟨"location".toList, Text.encode "/secret"⟩], [], false, none⟩
    else .answered ⟨200, [], Text.encode "<body><a href=/a></a></body>", false, none⟩
  records _ := Table.empty

/-- Fetching pages of the site with the usual settings. -/
def detourFetcher : WebFetcher (StateM (List Request)) := ⟨Config.default, detourSite.recorded⟩

/-- An analysis of the first page of the site and those below it, which looks for nothing. -/
def detourTask : Assignment :=
  ⟨{ Config.default with maxDepth := 1 }, ⟨Table.empty, Table.empty⟩, .inOrder, "http://example.com"⟩

/-- The requests for addresses of the site. -/
def detourRequest (segments : List (List Char)) : Request :=
  ⟨Url.examplePage segments, Config.default.userAgent⟩

/-- The start page is fetched, and has one link. -/
private theorem exists_pageAt_detourSite :
    ∃ e, detourFetcher.pageAt true 0 "http://example.com" = .ok e ∧
      e.linksFrom "http://example.com" = ["http://example.com/a"] := by
  have hanswer : ((answerOf (detourFetcher.fetchPage "http://example.com" (Url.examplePage [[]]))).toOption.map
      fun e => (e.html, e.page.url)) = some ("<body><a href=/a></a></body>", "http://example.com/") := by
    decide +kernel
  have hfound : Address.normalize "http://example.com/" = Address.normalize "http://example.com" := by
    decide
  have hlinks : Link.ofPage "<body><a href=/a></a></body>" (Url.examplePage [[]]) =
      ["http://example.com/a"] := by decide +kernel
  rw [← hlinks]
  exact WebFetcher.exists_pageAt_start Url.ofText_exampleHome hanswer hfound

private theorem permits_detourSite :
    detourFetcher.permits (Url.examplePage ["a".toList]) = true ∧
      detourFetcher.permits (Url.examplePage ["secret".toList]) = false := by
  have horigin (segments : List (List Char)) :
      String.ofList (Url.examplePage segments).origin = "http://example.com" := rfl
  have hfile : detourFetcher.file "http://example.com" = some "User-agent: *\nDisallow: /secret" := by
    rw [WebFetcher.file, WebFetcher.fetchText, Url.ofText_exampleRobots]
    decide +kernel
  rw [WebFetcher.permits, WebFetcher.permits, horigin, horigin, hfile]
  decide

/-- What fetching the start page and then the page that sends on asks of the network. -/
private theorem errandsOf_detourTask :
    detourFetcher.errandsOf ⟨true, Table.empty, 0, []⟩
        [.announce 0, .scrape "http://example.com", .announce 1, .scrape "http://example.com/a"] =
      [.page (Url.examplePage [[]]), .file "http://example.com", .page (Url.examplePage ["a".toList])] := by
  have hpage : Url.ofText "http://example.com/a" = .ok (Url.examplePage ["a".toList]) :=
    Url.ofText_examplePage "a".toList [] (by decide)
  have horigin : String.ofList (Url.examplePage ["a".toList]).origin = "http://example.com" := rfl
  have hbegun : detourFetcher.after ⟨true, Table.empty, 0, []⟩ (.announce 0) =
      ⟨true, Table.empty, 0, []⟩ := rfl
  have hholds : detourFetcher.Holds true ⟨true, Table.empty, 0, []⟩ := ⟨rfl, fun _ _ h => by cases h⟩
  have hfirst : detourFetcher.errands ⟨true, Table.empty, 0, []⟩ "http://example.com" =
      [.page (Url.examplePage [[]])] := by
    rw [WebFetcher.errands, Url.ofText_exampleHome]
    rfl
  -- The start page is fetched without the file for robots, which is therefore asked for below it.
  obtain ⟨-, hafter, -, hknown⟩ :=
    WebFetcher.run_call_scrape detourSite.steady_recorded hholds "http://example.com"
  have hunknown : (detourFetcher.after ⟨true, Table.empty, 0, []⟩
      (.scrape "http://example.com")).robots.contains "http://example.com" = false := by
    rw [← Bool.not_eq_true, hknown, hfirst]
    decide
  have hsecond : detourFetcher.errands (detourFetcher.after (detourFetcher.after
      ⟨true, Table.empty, 0, []⟩ (.scrape "http://example.com")) (.announce 1)) "http://example.com/a" =
        [.file "http://example.com", .page (Url.examplePage ["a".toList])] := by
    have hannounced (s : WebState) : detourFetcher.after s (.announce 1) = { s with depth := 1 } := rfl
    simp only [WebFetcher.errands, hannounced, hpage, hafter.ready, horigin, hunknown, permits_detourSite]
    rfl
  rw [WebFetcher.errandsOf, WebFetcher.errandsOf, WebFetcher.errandsOf, WebFetcher.errandsOf, hbegun]
  simp only [WebFetcher.errandsFor, WebFetcher.errandsOf, hfirst, hsecond]
  rfl

/-- Below the start, the page that sends on is asked for, and then the forbidden one. -/
theorem detour_reaches_forbidden_page :
    let start := ((detourFetcher.init.run .start).run []).1.2
    let done := (((detourTask.analyzer detourFetcher (pure ())).run detourTask.address).run start).run []
    done.1.1.calls =
        [.announce 0, .scrape "http://example.com", .announce 1, .scrape "http://example.com/a"] ∧
      done.2 = [detourRequest [[]], detourRequest ["robots.txt".toList], detourRequest ["a".toList],
        detourRequest ["secret".toList]] ∧
      detourFetcher.permits (Url.examplePage ["a".toList]) = true ∧
      detourFetcher.permits (Url.examplePage ["secret".toList]) = false := by
  intro start done
  have hstart : start = ⟨true, Table.empty, 0, []⟩ := WebFetcher.init_default detourSite.recorded
  have hholds : detourFetcher.Holds true start := by
    rw [hstart]
    exact ⟨rfl, fun _ _ h => by cases h⟩
  obtain ⟨e, hpage, hlinks⟩ := exists_pageAt_detourSite
  have hcalls : done.1.1.calls =
      [.announce 0, .scrape "http://example.com", .announce 1, .scrape "http://example.com/a"] := by
    obtain ⟨web, hscrape, -⟩ := WebFetcher.run_scrape detourSite.steady_recorded (hholds.announce 0)
      "http://example.com"
    rw [hpage] at hscrape
    exact detourTask.calls_of_one_link rfl (by decide) (by decide) (by decide) (by decide) (by decide)
      (hscrape []) hlinks
  refine ⟨hcalls, ?_, permits_detourSite⟩
  have hrequests : done.2 = (detourFetcher.errandsOf start done.1.1.calls).flatMap detourFetcher.requestsOf :=
    detourTask.requests_run detourSite.steady_recorded hholds
  have hfile : detourFetcher.requestsOf (.file "http://example.com") =
      [detourRequest ["robots.txt".toList]] := by
    rw [WebFetcher.requestsOf, WebFetcher.fetchText, Url.ofText_exampleRobots]
    decide +kernel
  have hpages : detourFetcher.requestsOf (.page (Url.examplePage [[]])) = [detourRequest [[]]] ∧
      detourFetcher.requestsOf (.page (Url.examplePage ["a".toList])) =
        [detourRequest ["a".toList], detourRequest ["secret".toList]] := by
    decide +kernel
  rw [hrequests, hcalls, hstart, errandsOf_detourTask]
  simp only [List.flatMap_cons, List.flatMap_nil, hfile, hpages]
  rfl

end SiteTech
