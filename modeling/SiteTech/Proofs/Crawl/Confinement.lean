import SiteTech.Fetch.Memory
import SiteTech.Proofs.Crawl.Visits
import SiteTech.Proofs.Rules.Catalog
import SiteTech.Proofs.Url.Canonical
import SiteTech.Proofs.Url.Plain

namespace SiteTech

namespace Url

/-- An address is that of a web page on the host and port of another address, and names nothing but
the path of the page. -/
structure IsPageOn (u site : Url) : Prop where
  web : u.isWeb = true
  host : u.hostText = site.hostText
  port : u.port = site.port
  username : u.username = []
  password : u.password = none
  query : u.query = none
  fragment : u.fragment = none

/-- The host of an address is read back from its text, if it is the text of a host. -/
def HostReadsBack (u : Url) : Prop := ∀ text, u.hostText = some text → Host.ReadsBack text

theorem isWebForm_of_ofText {text : String} {u : Url} (h : ofText text = .ok u)
    (hweb : u.isWeb = true) : u.IsWebForm :=
  read_isWebForm (by simp) h hweb

theorem isWebForm_of_join {address : String} {page target : Url} {text : List Char}
    (haddress : ofText address = .ok page) (hjoin : page.join text = .ok target)
    (hweb : target.isWeb = true) : target.IsWebForm := by
  refine read_isWebForm (fun base hbase hbaseWeb => ?_) hjoin hweb
  cases hbase
  exact isWebForm_of_ofText haddress hbaseWeb

end Url

namespace Link

/-- A link that is followed from a page leads to a page on the same host and port. -/
theorem isPageOn_of_resolve {address link followed : String} {page : Url}
    (haddress : Url.ofText address = .ok page) (hback : page.HostReadsBack)
    (h : resolve link page = some followed) :
    ∃ u, Url.ofText followed = .ok u ∧ u.IsPageOn page := by
  obtain ⟨target, htarget, hweb, hhost, hport, rfl⟩ := exists_target_of_resolve h
  have hform : target.IsWebForm := Url.isWebForm_of_join haddress htarget hweb
  obtain ⟨s, host, hread, hsome⟩ := hform.host
  have htext : target.hostText = some host.text := by rw [Url.hostText, hsome, Option.map_some]
  obtain ⟨host', hread', htext'⟩ := hback host.text (hhost ▸ htext) s host hread rfl
  refine ⟨_, Url.ofText_canonical hweb hform htext hread', hweb, ?_, hport, rfl, rfl, rfl, rfl⟩
  rw [← hhost, htext, Url.hostText, Option.map_some, htext']

/-- The links that are taken from an address are links on the page with this address. -/
theorem exists_of_mem_linksFrom {e : Evidence} {url link : String} (h : link ∈ e.linksFrom url) :
    ∃ page text, Url.ofText url = .ok page ∧ resolve text page = some link := by
  unfold Evidence.linksFrom at h
  split at h
  · cases h
  rename_i page hpage
  have hofPage (hlink : link ∈ ofPage e.html page) : ∃ text, resolve text page = some link := by
    rcases mem_foldl_addNew.1 hlink with hlink | hlink
    · cases hlink
    · obtain ⟨element, -, helement⟩ := List.mem_filterMap.1 hlink
      obtain ⟨href, -, hresolve⟩ := Option.bind_eq_some_iff.1 helement
      exact ⟨href, hresolve⟩
  dsimp only at h
  split at h
  · obtain ⟨text, hresolve⟩ := hofPage h
    exact ⟨page, text, hpage, hresolve⟩
  · rcases List.mem_append.1 h with h | h
    · obtain ⟨text, hresolve⟩ := hofPage h
      exact ⟨page, text, hpage, hresolve⟩
    · exact ⟨page, _, hpage, Option.mem_toList.1 h⟩

end Link

theorem Url.IsPageOn.trans {u page site : Url} (h : u.IsPageOn page) (hpage : page.IsPageOn site) :
    u.IsPageOn site :=
  { h with host := h.host.trans hpage.host, port := h.port.trans hpage.port }

/-- An address is that of a page on the host and port of a start. -/
def Address.IsOnHostOf (start url : String) : Prop :=
  ∃ site u, Url.ofText start = .ok site ∧ Url.ofText url = .ok u ∧ u.IsPageOn site

/-- What can be taken from an address leads to pages on its host. -/
theorem leadsTo_isOnHostOf {address : String}
    (hback : ∀ page, Url.ofText address = .ok page → page.HostReadsBack) :
    LeadsTo (Address.IsOnHostOf address) address := by
  intro e link hlink
  obtain ⟨page, text, hpage, hresolve⟩ := Link.exists_of_mem_linksFrom hlink
  obtain ⟨u, hu, hon⟩ := Link.isPageOn_of_resolve hpage (hback page hpage) hresolve
  exact ⟨page, u, hpage, hu, hon⟩

/-- What can be taken from a page on the host of a start leads to pages on the same host. -/
theorem Address.IsOnHostOf.leadsTo {start url : String} (h : Address.IsOnHostOf start url)
    (hback : ∀ site, Url.ofText start = .ok site → site.HostReadsBack) :
    LeadsTo (Address.IsOnHostOf start) url := by
  obtain ⟨site, u, hsite, hu, hon⟩ := h
  intro e link hlink
  have hreads : ∀ page, Url.ofText url = .ok page → page.HostReadsBack := by
    intro page hpage text htext
    rw [hu] at hpage
    cases hpage
    exact hback site hsite text (hon.host ▸ htext)
  obtain ⟨page, v, hpage, hv, hvon⟩ := leadsTo_isOnHostOf hreads e link hlink
  rw [hu] at hpage
  cases hpage
  exact ⟨site, v, hsite, hv, hvon.trans hon⟩

/-- An analysis never leaves the host of its start, whatever is answered and in whatever order: each
address that is visited after the start is that of a web page with the host and the port of the
start, without a user, a query or a fragment. If the start is no address, nothing else is visited. All
that is needed is that reading the text of the start's host gives this host again. -/
theorem visits_stay_on_host {σ : Type} (a : Analyzer (StateM σ)) (address : String)
    (hback : ∀ site, Url.ofText (Address.normalize address) = .ok site → site.HostReadsBack) (env : σ) :
    ∃ first rest, ((a.run address).run env).1.visits = first :: rest ∧
      (∀ report, ((a.analyze address).run env).1 = .ok report → report.urls = first :: rest) ∧
      first.url = Address.normalize address ∧
      (∀ page ∈ rest, Address.IsOnHostOf (Address.normalize address) page.url) ∧
      (∀ e, Url.ofText (Address.normalize address) = .error e → rest = []) := by
  obtain ⟨first, rest, hvisits, hfirst, hrest⟩ :=
    a.exists_run_visits (leadsTo_isOnHostOf hback) (fun _ hurl => hurl.leadsTo hback) env
  refine ⟨first, rest, hvisits, ?_, hfirst, hrest, fun e he => ?_⟩
  · intro report hreport
    rw [← hvisits]
    exact Session.urls_of_outcome_eq_ok _ hreport
  · refine List.eq_nil_iff_forall_not_mem.2 fun page hpage => ?_
    obtain ⟨site, u, hsite, -⟩ := hrest page hpage
    rw [he] at hsite
    cases hsite

namespace Url

theorem hostReadsBack_of_isPlainName {u : Url} (h : ∀ text, u.hostText = some text → IsPlainName text) :
    u.HostReadsBack :=
  fun text htext => (h text htext).readsBack

/-- The host of an address in the form in which pages are visited is read back if its name is plain. -/
theorem hostReadsBack_canonical {name : List Char} (hname : IsPlainName name) (hne : name ≠ [])
    (hnumber : endsInNumber name = false) {segments : List (List Char)}
    (hsegments : ∀ segment ∈ segments, ∀ c ∈ segment, isSegmentChar c = true) {site : Url}
    (h : ofText (Link.canonical ⟨"http".toList, true, [], none, some (.domain name), none,
      .segments segments, none, none⟩) = .ok site) : site.HostReadsBack := by
  have hread : readHost name = .ok (.domain name) := hname.readHost_eq_domain hne hnumber
  have hform : IsWebForm ⟨"http".toList, true, [], none, some (.domain name), none,
      .segments segments, none, none⟩ := ⟨⟨name, _, hread, rfl⟩, by simp, segments, rfl, hsegments⟩
  rw [ofText_canonical rfl hform rfl hread] at h
  cases h
  refine hostReadsBack_of_isPlainName fun text htext => ?_
  cases htext
  exact hname

end Url

/-- An analysis of a page with a link to another host and one to its own. -/
def exampleAnalyzer : Analyzer (StateM MemoryLog) :=
  { config := { Config.default with maxDepth := 1 }
    catalog := sampleCatalog
    schedule := .inOrder
    fetcher := (MemorySite.empty.withHtml "http://example.com"
      "<body><a href=//example.org/></a><a href=/about#us></a></body>").fetcher
    pause := pure () }

theorem exampleAnalyzer_stays_on_host :
    ∃ first rest, ((exampleAnalyzer.run "http://example.com").run ⟨[], 0⟩).1.visits = first :: rest ∧
      ∀ page ∈ rest, Address.IsOnHostOf "http://example.com" page.url := by
  have hplain : Url.IsPlainName "example.com".toList := by decide
  have hsegments : ∀ segment ∈ [[]], ∀ c ∈ segment, Url.isSegmentChar c = true := by simp
  obtain ⟨first, rest, hvisits, -, -, hrest, -⟩ := visits_stay_on_host exampleAnalyzer
    "http://example.com" (fun _ h => Url.hostReadsBack_canonical hplain (by decide) rfl hsegments h)
    ⟨[], 0⟩
  exact ⟨first, rest, hvisits, hrest⟩

end SiteTech
