import SiteTech.Proofs.Crawl.Outcome
import SiteTech.Proofs.Detection.Arrangement
import SiteTech.Proofs.Detection.Growth
import SiteTech.Proofs.Detection.Signs

namespace SiteTech

namespace Catalog

/-- A page that is the only one reports a technology with a confidence. -/
def Reports (c : Catalog) (o : Traversal) (a : Arrangement) (probe : Probe) (page : String × Evidence)
    (n : String) (confidence : UInt32) : Prop :=
  ∃ f ∈ c.detectPage o a probe page.1 page.2, f.name = n ∧ f.confidence = confidence

/-- A page shows a technology itself, on some channel. -/
def ShowsSome (c : Catalog) (probe : Probe) (page : String × Evidence) (n : String) : Prop :=
  ∃ v confidence, c.Shows probe page.1 page.2 n v confidence

/-- What is known after one page alone. -/
def alone (c : Catalog) (o : Traversal) (a : Arrangement) (probe : Probe) (page : String × Evidence) :
    DetectionStore :=
  c.detect o a probe page.1 page.2 DetectionStore.empty

/-- In which order the signs of a page are recorded plays no part in what it reports. -/
theorem reports_congr (c : Catalog) (o : Traversal) (a a' : Arrangement) {probe : Probe}
    {page : String × Evidence} {n : String} {k : UInt32} (h : c.Reports o a probe page n k) :
    c.Reports o a' probe page n k := by
  obtain ⟨f, hf, hname, hconfidence⟩ := h
  have halike : (c.alone o a probe page).Alike (fun _ => False) (c.alone o a' probe page) :=
    c.alike_detect o DetectionStore.alike_empty (.inr fun _ h => h.elim)
  obtain ⟨f', hf', hname', hconfidence', -⟩ := halike.exists_finding hf
  exact ⟨f', hf', hname'.trans hname, hconfidence'.trans hconfidence⟩

theorem closed_empty (c : Catalog) :
    c.ClosedUnderImplies fun n => DetectionStore.empty.contains n = true := fun _ _ h => by cases h

theorem detectAll_concat (c : Catalog) (o : Traversal) (probe : Probe)
    (pages : List (Arrangement × String × Evidence)) (page : Arrangement × String × Evidence) :
    c.detectAll o probe (pages ++ [page]) =
      c.detect o page.1 probe page.2.1 page.2.2 (c.detectAll o probe pages) :=
  List.foldl_append

section

variable {c : Catalog} (hnamed : c.Named) (hnone : c.ExcludesNothing) {o : Traversal} (ho : o.Complete)
  {a : Arrangement} {probe : Probe} {page : String × Evidence} {s : DetectionStore} {n : String}

include hnamed hnone ho

theorem closed_detectAll (pages : List (Arrangement × String × Evidence)) :
    c.ClosedUnderImplies fun n => (c.detectAll o probe pages).contains n = true := by
  cases pages using List.reverseRecOn with
  | nil => exact c.closed_empty
  | append_singleton pages page =>
    rw [detectAll_concat]
    exact closed_resolveIn ho hnamed hnone _

/-- A technology that is new on a page is found as on the page alone. -/
theorem get?_detect_of_new (a : Arrangement) (probe : Probe) (page : String × Evidence)
    (hclosed : c.ClosedUnderImplies fun n => s.contains n = true)
    (hnew : s.contains n = false) :
    (c.detect o a probe page.1 page.2 s).get? n = (c.alone o a probe page).get? n := by
  have hstart : s.AgreeBeyond s DetectionStore.empty := fun n hn => s.contains_eq_false_iff.1 hn
  have hrecorded : s.AgreeBeyond (s.addAll (a.arrange (c.hits probe page.1 page.2)))
      (DetectionStore.empty.addAll (a.arrange (c.hits probe page.1 page.2))) := by
    intro n hn
    rw [DetectionStore.get?_addAll, DetectionStore.get?_addAll, hstart n hn]
  exact hrecorded.resolveIn ho hnamed hclosed hnone n hnew

theorem get?_detect_of_recorded {d : Detection}
    (hd : (s.addAll (a.arrange (c.hits probe page.1 page.2))).get? n = some d) :
    (c.detect o a probe page.1 page.2 s).get? n = some d :=
  (closing_resolveIn ho hnamed hnone _).kept n d hd

/-- The confidence of a technology that was known, or that the page shows, is the greatest that was known or
that a sign on the page speaks for. -/
theorem exists_detect_isGreatest (a : Arrangement) (probe : Probe) (page : String × Evidence)
    (hthere : s.contains n = true ∨ c.ShowsSome probe page n) :
    ∃ d, (c.detect o a probe page.1 page.2 s).get? n = some d ∧
      IsGreatest {k | (∃ d₀, s.get? n = some d₀ ∧ d₀.confidence = k) ∨
        ∃ v, c.Shows probe page.1 page.2 n v k} d.confidence := by
  have hshown (v : String) (k : UInt32) :
      (∃ h ∈ (a.arrange (c.hits probe page.1 page.2)).filter fun h => h.technology.name == n,
        h.version = v ∧ h.confidence = k) ↔ c.Shows probe page.1 page.2 n v k := by
    rw [Catalog.shows_iff hnamed]
    simp only [List.mem_filter, (a.perm _).mem_iff, beq_iff_eq, and_assoc]
  obtain ⟨d, hd⟩ : ∃ d, (s.addAll (a.arrange (c.hits probe page.1 page.2))).get? n = some d := by
    rw [← Option.isSome_iff_exists, DetectionStore.get?_addAll, Detection.isSome_afterAll]
    refine hthere.imp id ?_
    rintro ⟨v, k, hshows⟩
    obtain ⟨h, hmem, -⟩ := (hshown v k).2 hshows
    exact ⟨h, hmem⟩
  refine ⟨d, get?_detect_of_recorded hnamed hnone ho hd, ?_⟩
  rw [DetectionStore.get?_addAll] at hd
  exact ((Detection.sums_of_afterAll hd).congr hshown).isGreatest

theorem reports_iff {k : UInt32} :
    c.Reports o a probe page n k ↔
      ∃ d, (c.alone o a probe page).get? n = some d ∧ d.confidence = k := by
  have hname (m : String) (d : Detection) (hd : (c.alone o a probe page).get? m = some d) :
      d.technology.name = m := by
    cases hthere : (DetectionStore.empty.addAll (a.arrange (c.hits probe page.1 page.2))).contains m with
    | true =>
      obtain ⟨d', hd'⟩ := (DetectionStore.contains_iff _).1 hthere
      cases (get?_detect_of_recorded hnamed hnone ho hd').symm.trans hd
      rw [DetectionStore.get?_addAll] at hd'
      exact Detection.name_afterAll (fun d₀ hd₀ => by cases hd₀)
        (fun h hh => beq_iff_eq.1 (List.mem_filter.1 hh).2) hd'
    | false =>
      obtain ⟨_, _, -, -, p, -, -, htechnology, -⟩ :=
        (closing_resolveIn ho hnamed hnone _).brought m d hd hthere
      exact hnamed m d.technology htechnology
  constructor
  · rintro ⟨f, hf, rfl, rfl⟩
    obtain ⟨d, hd, rfl⟩ := List.mem_map.1 hf
    obtain ⟨m, hm⟩ := (Table.mem_values_iff _).1 hd
    exact ⟨d, (congrArg _ (hname m d hm)).trans hm, rfl⟩
  · rintro ⟨d, hd, rfl⟩
    exact ⟨d.finding, List.mem_map_of_mem ((Table.mem_values_iff _).2 ⟨n, hd⟩), hname n d hd, rfl⟩

theorem contains_alone_iff :
    (c.alone o a probe page).contains n = true ↔ ∃ k, c.Reports o a probe page n k := by
  simp only [reports_iff hnamed hnone ho, DetectionStore.contains_iff]
  constructor
  · rintro ⟨d, hd⟩
    exact ⟨d.confidence, d, hd, rfl⟩
  · rintro ⟨_, d, hd, -⟩
    exact ⟨d, hd⟩

theorem contains_alone_of_shows (hshows : c.ShowsSome probe page n) :
    (c.alone o a probe page).contains n = true := by
  obtain ⟨d, hd, -⟩ :=
    exists_detect_isGreatest hnamed hnone ho (s := DetectionStore.empty) a probe page (.inr hshows)
  exact (DetectionStore.contains_iff _).2 ⟨d, hd⟩

theorem contains_detect_iff (hclosed : c.ClosedUnderImplies fun n => s.contains n = true) :
    (c.detect o a probe page.1 page.2 s).contains n = true ↔
      s.contains n = true ∨ ∃ k, c.Reports o a probe page n k := by
  rw [← contains_alone_iff hnamed hnone ho]
  cases hknown : s.contains n with
  | true =>
    obtain ⟨d, hd, -⟩ := exists_detect_isGreatest hnamed hnone ho a probe page (.inl hknown)
    simp [(DetectionStore.contains_iff _).2 ⟨d, hd⟩]
  | false =>
    have hnew := get?_detect_of_new hnamed hnone ho a probe page hclosed hknown
    simp only [DetectionStore.contains_iff, hnew, Bool.false_eq_true, false_or]

/-- A page that shows a technology itself reports the greatest confidence that one of its signs speaks
for. -/
theorem Reports.isGreatest {k : UInt32} (h : c.Reports o a probe page n k) (hshows : c.ShowsSome probe page n) :
    IsGreatest {j | ∃ v, c.Shows probe page.1 page.2 n v j} k := by
  obtain ⟨d, hd, rfl⟩ := (reports_iff hnamed hnone ho).1 h
  obtain ⟨d', hd', hgreatest⟩ :=
    exists_detect_isGreatest hnamed hnone ho (s := DetectionStore.empty) a probe page (.inr hshows)
  cases hd.symm.trans hd'
  have hempty (j : UInt32) : ¬∃ d₀, DetectionStore.empty.get? n = some d₀ ∧ d₀.confidence = j := by
    rintro ⟨d₀, hd₀, -⟩
    cases hd₀
  simpa only [hempty, false_or] using hgreatest

theorem Reports.unique {k k' : UInt32} (h : c.Reports o a probe page n k) (h' : c.Reports o a probe page n k') :
    k = k' := by
  obtain ⟨d, hd, rfl⟩ := (reports_iff hnamed hnone ho).1 h
  obtain ⟨d', hd', rfl⟩ := (reports_iff hnamed hnone ho).1 h'
  cases hd.symm.trans hd'
  rfl

variable {page : Arrangement × String × Evidence} {lone : Arrangement}

/-- The technologies of several pages are those that each of them reports alone. -/
theorem contains_detectAll_iff (lone : Arrangement) (pages : List (Arrangement × String × Evidence)) :
    (c.detectAll o probe pages).contains n = true ↔
      ∃ page ∈ pages, ∃ k, c.Reports o lone probe page.2 n k := by
  induction pages using List.reverseRecOn with
  | nil =>
    constructor
    · intro h
      cases h
    · rintro ⟨_, hpage, -⟩
      cases hpage
  | append_singleton pages page ih =>
    have hreports (k : UInt32) : c.Reports o page.1 probe page.2 n k ↔ c.Reports o lone probe page.2 n k :=
      ⟨c.reports_congr o page.1 lone, c.reports_congr o lone page.1⟩
    rw [detectAll_concat, contains_detect_iff hnamed hnone ho (closed_detectAll hnamed hnone ho pages), ih]
    simp only [hreports, List.mem_append, List.mem_singleton, or_and_right, exists_or, exists_eq_left]

/-- After the first page that reports a technology, its confidence is the greatest that this page reports, or
a later one that shows the technology itself. -/
theorem exists_detectAll_isGreatest {before : List (Arrangement × String × Evidence)} {k : UInt32}
    (hbefore : ∀ p ∈ before, ¬∃ j, c.Reports o lone probe p.2 n j) (hfirst : c.Reports o lone probe page.2 n k)
    (after : List (Arrangement × String × Evidence)) :
    ∃ d, (c.detectAll o probe (before ++ page :: after)).get? n = some d ∧
      IsGreatest {j | j = k ∨ ∃ p ∈ after, c.ShowsSome probe p.2 n ∧ c.Reports o lone probe p.2 n j}
        d.confidence := by
  induction after using List.reverseRecOn with
  | nil =>
    have hnew : (c.detectAll o probe before).contains n = false := by
      refine eq_false_of_ne_true fun hthere => ?_
      obtain ⟨p, hp, hreports⟩ := (contains_detectAll_iff hnamed hnone ho lone before).1 hthere
      exact hbefore p hp hreports
    obtain ⟨d, hd, rfl⟩ := (reports_iff hnamed hnone ho).1 (c.reports_congr o lone page.1 hfirst)
    refine ⟨d, ?_, .inl rfl, ?_⟩
    · rw [detectAll_concat, get?_detect_of_new hnamed hnone ho page.1 probe page.2
        (closed_detectAll hnamed hnone ho before) hnew, hd]
    · rintro j (rfl | ⟨p, hp, -⟩)
      · exact UInt32.le_refl _
      · cases hp
  | append_singleton after last ih =>
    obtain ⟨d, hd, hmem, hbound⟩ := ih
    have hthere := (DetectionStore.contains_iff _).2 ⟨d, hd⟩
    obtain ⟨d', hd', hmem', hbound'⟩ :=
      exists_detect_isGreatest hnamed hnone ho last.1 probe last.2 (.inl hthere)
    have hgrown : d.confidence ≤ d'.confidence := hbound' (.inl ⟨d, hd, rfl⟩)
    refine ⟨d', ?_, ?_, ?_⟩
    · rw [← List.cons_append, ← List.append_assoc, detectAll_concat, hd']
    · rcases hmem' with ⟨d₀, hd₀, hsame⟩ | ⟨v, hsign⟩
      · cases hd.symm.trans hd₀
        rw [← hsame]
        refine hmem.imp id ?_
        rintro ⟨p, hp, hreports⟩
        exact ⟨p, List.mem_append_left _ hp, hreports⟩
      · -- A sign on the last page is the greatest there, so it is what this page reports.
        have hshows : c.ShowsSome probe last.2 n := ⟨v, _, hsign⟩
        obtain ⟨j, hj⟩ := (contains_alone_iff hnamed hnone ho (a := lone)).1
          (contains_alone_of_shows hnamed hnone ho hshows)
        have hgreatest := hj.isGreatest hnamed hnone ho hshows
        have hsame : j = d'.confidence :=
          UInt32.le_antisymm (hbound' (.inr hgreatest.1)) (hgreatest.2 ⟨v, hsign⟩)
        exact .inr ⟨last, by simp, hshows, hsame ▸ hj⟩
    · rintro j (rfl | ⟨p, hp, hshows, hreports⟩)
      · exact UInt32.le_trans (hbound (.inl rfl)) hgrown
      · rcases List.mem_append.1 hp with hp | hp
        · exact UInt32.le_trans (hbound (.inr ⟨p, hp, hshows, hreports⟩)) hgrown
        · cases List.mem_singleton.1 hp
          exact hbound' (.inr (hreports.isGreatest hnamed hnone ho hshows).1)

/-- A technology that is known after several pages was reported first by one of them. -/
theorem exists_first_report (lone : Arrangement) {pages : List (Arrangement × String × Evidence)}
    (hthere : (c.detectAll o probe pages).contains n = true) :
    ∃ before page after, pages = before ++ page :: after ∧
      (∀ p ∈ before, ¬∃ j, c.Reports o lone probe p.2 n j) ∧ ∃ k, c.Reports o lone probe page.2 n k := by
  classical
  obtain ⟨page, hpage, hreports⟩ := (contains_detectAll_iff hnamed hnone ho lone pages).1 hthere
  obtain ⟨first, hfirst⟩ : ∃ first,
      pages.find? (fun p => ∃ j, c.Reports o lone probe p.2 n j) = some first := by
    rw [← Option.isSome_iff_exists, List.find?_isSome]
    exact ⟨page, hpage, decide_eq_true hreports⟩
  obtain ⟨hfound, before, after, hpages, hbefore⟩ := List.find?_eq_some_iff_append.1 hfirst
  exact ⟨before, first, after, hpages, fun p hp => by simpa using hbefore p hp, of_decide_eq_true hfound⟩

end

end Catalog

/-- Where nothing excludes anything, the technologies of several pages are those that each of the pages
reports when it is the only one. So neither the order of the pages matters nor how often each comes, and
in which order the signs of a page are recorded never does. -/
theorem pages_contribute_independently {library : RuleLibrary}
    {order : List (String × CategoryRule)} {c : Catalog} (hload : Catalog.ofLibraryIn order library = .ok c)
    (hnone : c.ExcludesNothing) {o : Traversal} (ho : o.Complete) (probe : Probe)
    (pages : List (Arrangement × String × Evidence)) :
    (∀ lone n, n ∈ (c.detectAll o probe pages).names ↔
      ∃ page ∈ pages, ∃ f ∈ c.detectPage o lone probe page.2.1 page.2.2, f.name = n) ∧
    ∀ pages' : List (Arrangement × String × Evidence),
      (∀ page, page ∈ pages'.map Prod.snd ↔ page ∈ pages.map Prod.snd) →
        (c.detectAll o probe pages').names = (c.detectAll o probe pages).names := by
  have hnamed := Catalog.named_of_ofLibraryIn hload
  have hnames (pages : List (Arrangement × String × Evidence)) (lone : Arrangement) (n : String) :
      n ∈ (c.detectAll o probe pages).names ↔
        ∃ page ∈ pages, ∃ f ∈ c.detectPage o lone probe page.2.1 page.2.2, f.name = n := by
    rw [DetectionStore.mem_names_iff, Catalog.contains_detectAll_iff hnamed hnone ho lone]
    refine exists_congr fun page => and_congr_right fun _ => ?_
    constructor
    · rintro ⟨_, f, hf, hname, -⟩
      exact ⟨f, hf, hname⟩
    · rintro ⟨f, hf, hname⟩
      exact ⟨f.confidence, f, hf, hname, rfl⟩
  refine ⟨hnames pages, fun pages' hsame => ?_⟩
  refine eq_of_sorted_of_mem_iff (DetectionStore.names_sorted _) (DetectionStore.names_sorted _) fun n => ?_
  have hwhole (pages : List (Arrangement × String × Evidence)) : n ∈ (c.detectAll o probe pages).names ↔
      ∃ page ∈ pages.map Prod.snd, ∃ f ∈ c.detectPage o .inOrder probe page.1 page.2, f.name = n := by
    simp only [hnames pages .inOrder, List.mem_map, exists_exists_and_eq_and]
  simp only [hwhole, hsame]

/-- A library with a server of which a cookie says little, and a panel that implies it. -/
def hostingLibrary : RuleLibrary :=
  { categories := Table.ofList [("1", ⟨"Hosting", 0⟩)]
    technologies := Table.ofList
      [("Nginx", { TechRule.bare with
          channels := { TechRule.bare.channels with
            cookies := some (.keyed (Table.ofList [("nginx", .single "\\;confidence:40")])) } }),
       ("Plesk", { TechRule.bare with
          channels := { TechRule.bare.channels with
            cookies := some (.keyed (Table.ofList [("plesk", .single "")]))
            implies := some (.single "Nginx") } })] }

/-- The catalog of the library with a panel. -/
def hostingCatalog : Catalog :=
  (Catalog.ofLibrary hostingLibrary).toOption.getD ⟨Table.empty, Table.empty⟩

theorem ofLibrary_hostingLibrary : Catalog.ofLibrary hostingLibrary = .ok hostingCatalog := rfl

theorem excludesNothing_hostingCatalog : hostingCatalog.ExcludesNothing := by
  have hall : (hostingCatalog.technologies.values.all fun t =>
      (PatternTable.all t.channels.excludes).isEmpty) = true := rfl
  exact fun t ht => List.isEmpty_iff.1 (List.all_eq_true.1 hall t ht)

/-- A probe that cannot render pages. -/
def staticProbe : Probe := ⟨false, fun _ => .ok none⟩

/-- A page without text that sets a cookie, with its signs in the order in which they are listed. -/
def cookiePage (name : String) : Arrangement × String × Evidence :=
  (.inOrder, "http://example.com", (Evidence.ofPage "http://example.com" "").withCookie name "")

/-- The server is found with the panel, on whatever pages and however often. -/
theorem hosting_pages_in_any_order :
    (∃ page ∈ [cookiePage "nginx", cookiePage "plesk"],
      ∃ f ∈ hostingCatalog.detectPage .byName .inOrder staticProbe page.2.1 page.2.2, f.name = "Plesk") ∧
    (hostingCatalog.detectAll .byName staticProbe
        [cookiePage "plesk", cookiePage "nginx", cookiePage "plesk"]).names =
      (hostingCatalog.detectAll .byName staticProbe [cookiePage "nginx", cookiePage "plesk"]).names := by
  obtain ⟨hnames, horder⟩ := pages_contribute_independently ofLibrary_hostingLibrary
    excludesNothing_hostingCatalog Traversal.complete_byName staticProbe
    [cookiePage "nginx", cookiePage "plesk"]
  refine ⟨(hnames .inOrder "Plesk").1 (by decide), horder _ fun page => ?_⟩
  simp only [List.map_cons, List.map_nil, List.mem_cons, List.not_mem_nil, or_false]
  grind

/-- Where nothing excludes anything, the confidence of a technology after several pages is the greatest
of what the first page that reports it reports and of what later pages report that show it themselves;
that another technology implies it on a later page changes nothing. If each page that reports the
technology shows it itself, its confidence is the greatest that any page reports, whatever the order of
the pages and of their signs. -/
theorem confidence_is_greatest_shown {library : RuleLibrary}
    {order : List (String × CategoryRule)} {c : Catalog} (hload : Catalog.ofLibraryIn order library = .ok c)
    (hnone : c.ExcludesNothing) {o : Traversal} (ho : o.Complete) (lone : Arrangement) (probe : Probe)
    (pages : List (Arrangement × String × Evidence)) (n : String) :
    (∀ d, (c.detectAll o probe pages).get? n = some d →
      ∃ before page after k, pages = before ++ page :: after ∧
        (∀ p ∈ before, ¬∃ j, c.Reports o lone probe p.2 n j) ∧ c.Reports o lone probe page.2 n k ∧
        IsGreatest {j | j = k ∨ ∃ p ∈ after, c.ShowsSome probe p.2 n ∧ c.Reports o lone probe p.2 n j}
          d.confidence) ∧
    ((∀ page ∈ pages, ∀ k, c.Reports o lone probe page.2 n k → c.ShowsSome probe page.2 n) →
      ∀ pages' : List (Arrangement × String × Evidence),
        (∀ page, page ∈ pages'.map Prod.snd ↔ page ∈ pages.map Prod.snd) →
          ∀ d, (c.detectAll o probe pages').get? n = some d →
            IsGreatest {k | ∃ page ∈ pages, c.Reports o lone probe page.2 n k} d.confidence) := by
  have hnamed := Catalog.named_of_ofLibraryIn hload
  have hfirst (pages : List (Arrangement × String × Evidence)) (d : Detection)
      (hd : (c.detectAll o probe pages).get? n = some d) :
      ∃ before page after k, pages = before ++ page :: after ∧
        (∀ p ∈ before, ¬∃ j, c.Reports o lone probe p.2 n j) ∧ c.Reports o lone probe page.2 n k ∧
        IsGreatest {j | j = k ∨ ∃ p ∈ after, c.ShowsSome probe p.2 n ∧ c.Reports o lone probe p.2 n j}
          d.confidence := by
    obtain ⟨before, page, after, rfl, hbefore, k, hk⟩ :=
      Catalog.exists_first_report hnamed hnone ho lone ((DetectionStore.contains_iff _).2 ⟨d, hd⟩)
    obtain ⟨d', hd', hgreatest⟩ := Catalog.exists_detectAll_isGreatest hnamed hnone ho hbefore hk after
    cases hd.symm.trans hd'
    exact ⟨before, page, after, k, rfl, hbefore, hk, hgreatest⟩
  refine ⟨hfirst pages, fun hshows pages' hsame d hd => ?_⟩
  -- What a page reports and shows does not depend on the order of its signs, so the pages may be told without it.
  have hthere {pages pages' : List (Arrangement × String × Evidence)}
      (hsame : ∀ page, page ∈ pages'.map Prod.snd ↔ page ∈ pages.map Prod.snd)
      (page : Arrangement × String × Evidence) (hpage : page ∈ pages') : ∃ page' ∈ pages, page'.2 = page.2 :=
    List.mem_map.1 ((hsame page.2).1 (List.mem_map_of_mem hpage))
  obtain ⟨before, page, after, k, rfl, hbefore, hk, hmem, hbound⟩ := hfirst pages' d hd
  constructor
  · rcases hmem with hconfidence | ⟨p, hp, -, hreports⟩
    · obtain ⟨page', hpage', heq⟩ := hthere hsame page (by simp)
      exact ⟨page', hpage', by rw [heq, hconfidence]; exact hk⟩
    · obtain ⟨p', hp', heq⟩ := hthere hsame p (by simp [hp])
      exact ⟨p', hp', by rw [heq]; exact hreports⟩
  · rintro j ⟨p, hp, hreports⟩
    have hshown := hshows p hp j hreports
    obtain ⟨p', hmem, heq⟩ := hthere (fun page => (hsame page).symm) p hp
    rw [← heq] at hreports hshown
    rcases List.mem_append.1 hmem with hmem | hmem
    · exact absurd ⟨j, hreports⟩ (hbefore p' hmem)
    · rcases List.mem_cons.1 hmem with rfl | hmem
      · exact hbound (.inl (hreports.unique hnamed hnone ho hk))
      · exact hbound (.inr ⟨p', hmem, hshown, hreports⟩)

/-- The panel implies the server with more confidence than the cookie says, and that counts only if the page
with the panel comes first. -/
theorem implied_confidence_depends_on_order :
    Catalog.ofLibrary hostingLibrary = .ok hostingCatalog ∧ hostingCatalog.ExcludesNothing ∧
      hostingCatalog.Reports .byName .inOrder staticProbe (cookiePage "nginx").2 "Nginx" 40 ∧
      hostingCatalog.Reports .byName .inOrder staticProbe (cookiePage "plesk").2 "Nginx" 100 ∧
      ((hostingCatalog.detectAll .byName staticProbe [cookiePage "nginx", cookiePage "plesk"]).get?
        "Nginx").map Detection.confidence = some 40 ∧
      ((hostingCatalog.detectAll .byName staticProbe [cookiePage "plesk", cookiePage "nginx"]).get?
        "Nginx").map Detection.confidence = some 100 := by
  refine ⟨rfl, excludesNothing_hostingCatalog, ?_, ?_, by decide, by decide⟩
  · unfold Catalog.Reports
    decide
  · unfold Catalog.Reports
    decide

theorem plesk_does_not_raise_nginx :
    ∃ d before page after k,
      (hostingCatalog.detectAll .byName staticProbe [cookiePage "nginx", cookiePage "plesk"]).get? "Nginx" =
        some d ∧
      [cookiePage "nginx", cookiePage "plesk"] = before ++ page :: after ∧
      hostingCatalog.Reports .byName .inOrder staticProbe page.2 "Nginx" k ∧
      IsGreatest {j | j = k ∨ ∃ p ∈ after, hostingCatalog.ShowsSome staticProbe p.2 "Nginx" ∧
        hostingCatalog.Reports .byName .inOrder staticProbe p.2 "Nginx" j} d.confidence := by
  obtain ⟨d, hd⟩ : ∃ d, (hostingCatalog.detectAll .byName staticProbe
      [cookiePage "nginx", cookiePage "plesk"]).get? "Nginx" = some d :=
    Option.isSome_iff_exists.1 (by decide)
  obtain ⟨before, page, after, k, hpages, -, hk, hgreatest⟩ := (confidence_is_greatest_shown
    ofLibrary_hostingLibrary excludesNothing_hostingCatalog Traversal.complete_byName .inOrder staticProbe _
    "Nginx").1 d hd
  exact ⟨d, before, page, after, k, hd, hpages, hk, hgreatest⟩

end SiteTech
