import SiteTech.Detection.Page
import SiteTech.Proofs.Detection.Store
import SiteTech.Proofs.Rules.Catalog

namespace SiteTech

/-- A signature has a pattern, and the pattern matches in a text. -/
def Pattern.Matches (p : Pattern) (text : String) : Prop :=
  ∃ r, p.regex = some r ∧ r.isMatch text = true

/-- A signature only asks for presence, or its pattern matches in a text. -/
def Pattern.Accepts (p : Pattern) (text : String) : Prop := p.literal = "" ∨ p.Matches text

theorem Pattern.isMatch_iff (p : Pattern) (text : String) : p.isMatch text = true ↔ p.Matches text := by
  unfold isMatch Matches
  cases p.regex <;> simp

theorem Pattern.accepts_iff (p : Pattern) (text : String) : p.accepts text = true ↔ p.Accepts text := by
  simp [accepts, isPresence, Accepts, isMatch_iff]

theorem Text.occursIn_iff {needle s : List Char} : occursIn needle s = true ↔ needle <:+: s := by
  induction s with
  | nil => simp [occursIn]
  | cons c rest ih => simp [occursIn, ih, List.infix_cons_iff]

/-- A page shows a technology with a version and a confidence: the sign may be on any channel. -/
inductive Technology.Shows (t : Technology) (probe : Probe) (url : String) (e : Evidence) :
    String → UInt32 → Prop where
  | url {p : Pattern} (hp : p ∈ PatternTable.all t.channels.url) (hmatch : p.Matches url) :
    Shows t probe url e (p.version url) p.confidence
  | html {p : Pattern} (hp : p ∈ PatternTable.all t.channels.html) (hmatch : p.Matches e.html) :
    Shows t probe url e (p.version e.html) p.confidence
  | script {p : Pattern} {source : String} (hp : p ∈ PatternTable.all t.channels.scripts)
    (hsource : source ∈ e.scripts) (hmatch : p.Matches source) :
    Shows t probe url e (p.version source) p.confidence
  | header {p : Pattern} {name value : String} {ps : List Pattern} {values : List String}
    (hname : t.channels.headers.get? name = some ps) (hp : p ∈ ps)
    (hvalues : e.headers.get? (Text.lower name) = some values) (hvalue : value ∈ values)
    (haccepts : p.Accepts value) : Shows t probe url e (p.version value) p.confidence
  | cookie {p : Pattern} {name value : String} {ps : List Pattern}
    (hname : t.channels.cookies.get? name = some ps) (hp : p ∈ ps)
    (hvalue : e.cookies.get? (Text.lower name) = some value) (haccepts : p.Accepts value) :
    Shows t probe url e (p.version value) p.confidence
  | metaTag {p : Pattern} {name value : String} {ps : List Pattern} {values : List String}
    (hname : t.channels.metas.get? name = some ps) (hp : p ∈ ps)
    (hvalues : e.metas.get? (Text.lower name) = some values) (hvalue : value ∈ values)
    (haccepts : p.Accepts value) : Shows t probe url e (p.version value) p.confidence
  | dns {p : Pattern} {type value : String} {ps : List Pattern} {values : List String}
    (htype : t.channels.dns.get? type = some ps) (hp : p ∈ ps)
    (hvalues : e.dns.get? (Text.upper type) = some values) (hvalue : value ∈ values)
    (haccepts : p.Accepts value) : Shows t probe url e (p.version value) p.confidence
  | jsText {p : Pattern} {expression text : String} {ps : List Pattern}
    (hrender : probe.canRender = true) (hname : t.channels.js.get? expression = some ps)
    (hp : p ∈ ps) (hvalue : probe.evaluate expression = .ok (some (.string text)))
    (haccepts : p.Accepts text) : Shows t probe url e (p.version text) p.confidence
  | jsNumber {p : Pattern} {expression : String} {n : Json.Number} {ps : List Pattern}
    (hrender : probe.canRender = true) (hname : t.channels.js.get? expression = some ps)
    (hp : p ∈ ps) (hvalue : probe.evaluate expression = .ok (some (.number n)))
    (haccepts : p.Accepts (String.ofList n.text)) :
    Shows t probe url e (p.version (String.ofList n.text)) p.confidence
  | elementText {p : Pattern} {rule : DomRule} {selector : Selector.Alternatives}
    {id : Html.NodeId} {check : DomCheck} (hrule : rule ∈ t.dom)
    (hselector : Selector.ofText? rule.selector = some selector)
    (hfirst : selector.first? (Html.Document.ofText e.html) = some id) (hcheck : check ∈ rule.checks)
    (hmode : check.mode = .text ∨ check.mode = .exists) (hp : p ∈ PatternTable.all check.patterns)
    (haccepts : p.Accepts ((Html.Document.ofText e.html).text id)) :
    Shows t probe url e (p.version ((Html.Document.ofText e.html).text id)) p.confidence
  | elementAttribute {p : Pattern} {rule : DomRule} {selector : Selector.Alternatives}
    {id : Html.NodeId} {check : DomCheck} {element : Html.Element} {name value : String}
    {ps : List Pattern} (hrule : rule ∈ t.dom)
    (hselector : Selector.ofText? rule.selector = some selector)
    (hfirst : selector.first? (Html.Document.ofText e.html) = some id) (hcheck : check ∈ rule.checks)
    (hmode : check.mode = .attributes) (hname : check.patterns.get? name = some ps) (hp : p ∈ ps)
    (helement : (Html.Document.ofText e.html).element? id = some element)
    (hvalue : element.attribute? name = some value) (haccepts : p.Accepts value) :
    Shows t probe url e (p.version value) p.confidence
  | certIssuer {expected issuer : String} (hexpected : t.certIssuer = some expected)
    (hissuer : issuer ∈ e.certIssuers) (hpart : expected.toList <:+: issuer.toList) :
    Shows t probe url e "" 100

namespace Technology

theorem mem_textHits_iff {t : Technology} {patterns : PatternTable} {values : List String} {h : Hit} :
    h ∈ t.textHits patterns values ↔
      ∃ p ∈ PatternTable.all patterns, ∃ v ∈ values, p.Matches v ∧ h = t.hit p v := by
  simp only [textHits, List.mem_flatMap, List.mem_map, List.mem_filter, Pattern.isMatch_iff]
  grind

theorem mem_valueHits_iff {t : Technology} {patterns : List Pattern} {value : String} {h : Hit} :
    h ∈ t.valueHits patterns value ↔ ∃ p ∈ patterns, p.Accepts value ∧ h = t.hit p value := by
  simp only [valueHits, List.mem_map, List.mem_filter, Pattern.accepts_iff]
  grind

theorem mem_keyedHits_iff {t : Technology} {patterns : PatternTable}
    {values : String → List String} {h : Hit} :
    h ∈ t.keyedHits patterns values ↔
      ∃ key ps, patterns.get? key = some ps ∧
        ∃ p ∈ ps, ∃ v ∈ values key, p.Accepts v ∧ h = t.hit p v := by
  simp only [keyedHits, List.mem_flatMap, List.mem_map, List.mem_filter, Pattern.accepts_iff,
    Prod.exists, Table.get?_eq_some_iff]
  grind

/-- The signs on values that a table lists under names, which are written in another way there. -/
theorem mem_listedHits_iff {t : Technology} {patterns : PatternTable}
    {listed : Table String (List String)} {written : String → String} {h : Hit} :
    h ∈ t.keyedHits patterns (fun key => (listed.get? (written key)).getD []) ↔
      ∃ key ps values, patterns.get? key = some ps ∧ listed.get? (written key) = some values ∧
        ∃ p ∈ ps, ∃ v ∈ values, p.Accepts v ∧ h = t.hit p v := by
  rw [mem_keyedHits_iff]
  constructor
  · rintro ⟨key, ps, hkey, p, hp, v, hv, haccepts, rfl⟩
    cases hvalues : listed.get? (written key) with
    | none => simp [hvalues] at hv
    | some values =>
      exact ⟨key, ps, values, hkey, hvalues, p, hp, v, by simpa [hvalues] using hv, haccepts, rfl⟩
  · rintro ⟨key, ps, values, hkey, hvalues, p, hp, v, hv, haccepts, rfl⟩
    exact ⟨key, ps, hkey, p, hp, v, by simpa [hvalues] using hv, haccepts, rfl⟩

theorem mem_certIssuerHits_iff {t : Technology} {issuers : List String} {h : Hit} :
    h ∈ t.certIssuerHits issuers ↔
      ∃ expected, t.certIssuer = some expected ∧
        ∃ issuer ∈ issuers, expected.toList <:+: issuer.toList ∧ h = ⟨t, "", 100⟩ := by
  unfold certIssuerHits
  cases t.certIssuer with
  | none => simp
  | some expected =>
    simp only [List.mem_map, List.mem_filter, Text.occursIn_iff, Option.some.injEq]
    grind

/-- A sign of the technology says something that the page shows. -/
def Tells (t : Technology) (probe : Probe) (url : String) (e : Evidence) (h : Hit) : Prop :=
  h.technology = t ∧ t.Shows probe url e h.version h.confidence

variable {t : Technology} {probe : Probe} {url : String} {e : Evidence} {h : Hit}

private theorem tells_of_mem_jsHits (hrender : probe.canRender = true)
    (hmem : h ∈ t.jsHits probe.evaluate) : t.Tells probe url e h := by
  obtain ⟨expression, ps, hname, p, hp, text, htext, haccepts, rfl⟩ := mem_keyedHits_iff.1 hmem
  refine ⟨rfl, ?_⟩
  split at htext
  · rename_i value hvalue
    cases value with
    | string s =>
      obtain rfl : text = s := by simpa [scriptText?] using htext
      exact .jsText hrender hname hp hvalue haccepts
    | number n =>
      obtain rfl : text = String.ofList n.text := by simpa [scriptText?] using htext
      exact .jsNumber hrender hname hp hvalue haccepts
    | null => simp [scriptText?] at htext
    | bool b => simp [scriptText?] at htext
    | array items => simp [scriptText?] at htext
    | object members => simp [scriptText?] at htext
  · simp at htext

private theorem tells_of_mem_pageHits (hmem : h ∈ t.pageHits probe url e) :
    t.Tells probe url e h := by
  simp only [pageHits, List.mem_append, or_assoc] at hmem
  rcases hmem with hurl | hjs | hhtml | hheader | hcookie | hscript | hmeta | hdns | hcert
  · obtain ⟨p, hp, v, hv, hmatch, rfl⟩ := mem_textHits_iff.1 hurl
    cases List.mem_singleton.1 hv
    exact ⟨rfl, .url hp hmatch⟩
  · split at hjs
    · exact tells_of_mem_jsHits ‹_› hjs
    · cases hjs
  · obtain ⟨p, hp, v, hv, hmatch, rfl⟩ := mem_textHits_iff.1 hhtml
    cases List.mem_singleton.1 hv
    exact ⟨rfl, .html hp hmatch⟩
  · obtain ⟨name, ps, values, hname, hvalues, p, hp, v, hv, haccepts, rfl⟩ :=
      mem_listedHits_iff.1 hheader
    exact ⟨rfl, .header hname hp hvalues hv haccepts⟩
  · obtain ⟨name, ps, hname, p, hp, v, hv, haccepts, rfl⟩ := mem_keyedHits_iff.1 hcookie
    exact ⟨rfl, .cookie hname hp (by simpa using hv) haccepts⟩
  · obtain ⟨p, hp, v, hv, hmatch, rfl⟩ := mem_textHits_iff.1 hscript
    exact ⟨rfl, .script hp hv hmatch⟩
  · obtain ⟨name, ps, values, hname, hvalues, p, hp, v, hv, haccepts, rfl⟩ :=
      mem_listedHits_iff.1 hmeta
    exact ⟨rfl, .metaTag hname hp hvalues hv haccepts⟩
  · obtain ⟨name, ps, values, hname, hvalues, p, hp, v, hv, haccepts, rfl⟩ :=
      mem_listedHits_iff.1 hdns
    exact ⟨rfl, .dns hname hp hvalues hv haccepts⟩
  · obtain ⟨expected, hexpected, issuer, hissuer, hpart, rfl⟩ := mem_certIssuerHits_iff.1 hcert
    exact ⟨rfl, .certIssuer hexpected hissuer hpart⟩

private theorem tells_of_mem_domHits (hmem : h ∈ t.domHits (Html.Document.ofText e.html)) :
    t.Tells probe url e h := by
  obtain ⟨rule, hrule, hhit⟩ := List.mem_flatMap.1 hmem
  unfold ruleHits at hhit
  split at hhit
  · cases hhit
  · rename_i id hfound
    obtain ⟨selector, hselector, hfirst⟩ := Option.bind_eq_some_iff.1 hfound
    obtain ⟨check, hcheck, hhit⟩ := List.mem_flatMap.1 hhit
    unfold checkHits at hhit
    split at hhit
    · obtain ⟨p, hp, haccepts, rfl⟩ := mem_valueHits_iff.1 hhit
      exact ⟨rfl, .elementText hrule hselector hfirst hcheck (.inl ‹_›) hp haccepts⟩
    · obtain ⟨p, hp, haccepts, rfl⟩ := mem_valueHits_iff.1 hhit
      exact ⟨rfl, .elementText hrule hselector hfirst hcheck (.inr ‹_›) hp haccepts⟩
    · obtain ⟨name, ps, hname, p, hp, v, hv, haccepts, rfl⟩ := mem_keyedHits_iff.1 hhit
      obtain ⟨element, helement, hvalue⟩ := Option.bind_eq_some_iff.1 (Option.mem_toList.1 hv)
      exact ⟨rfl, .elementAttribute hrule hselector hfirst hcheck ‹_› hname hp helement hvalue
        haccepts⟩
    · cases hhit

/-- Every sign of a technology on a page says something that the page shows of it. -/
theorem tells_of_mem
    (hmem : h ∈ t.pageHits probe url e ++ t.domHits (Html.Document.ofText e.html)) :
    t.Tells probe url e h :=
  (List.mem_append.1 hmem).elim tells_of_mem_pageHits tells_of_mem_domHits

/-- Whatever a page shows of a technology, one of its signs says. -/
private theorem exists_hit_of_shows {v : String} {c : UInt32} (hshows : t.Shows probe url e v c) :
    ∃ h ∈ t.pageHits probe url e ++ t.domHits (Html.Document.ofText e.html),
      h.version = v ∧ h.confidence = c := by
  have of_page {h : Hit} (hmem : h ∈ t.pageHits probe url e) :
      ∃ h' ∈ t.pageHits probe url e ++ t.domHits (Html.Document.ofText e.html),
        h'.version = h.version ∧ h'.confidence = h.confidence :=
    ⟨h, List.mem_append_left _ hmem, rfl, rfl⟩
  have of_dom {h : Hit} {rule : DomRule} {selector : Selector.Alternatives} {id : Html.NodeId}
      {check : DomCheck} (hrule : rule ∈ t.dom)
      (hselector : Selector.ofText? rule.selector = some selector)
      (hfirst : selector.first? (Html.Document.ofText e.html) = some id)
      (hcheck : check ∈ rule.checks)
      (hmem : h ∈ t.checkHits (Html.Document.ofText e.html) id check) :
      ∃ h' ∈ t.pageHits probe url e ++ t.domHits (Html.Document.ofText e.html),
        h'.version = h.version ∧ h'.confidence = h.confidence := by
    refine ⟨h, List.mem_append_right _ (List.mem_flatMap.2 ⟨rule, hrule, ?_⟩), rfl, rfl⟩
    simp only [ruleHits, hselector, Option.bind_some, hfirst]
    exact List.mem_flatMap.2 ⟨check, hcheck, hmem⟩
  cases hshows with
  | @url p hp hmatch =>
    have hmem : t.hit p url ∈ t.urlHits url :=
      mem_textHits_iff.2 ⟨p, hp, url, List.mem_singleton_self _, hmatch, rfl⟩
    exact of_page (h := t.hit p url) (by simp [pageHits, hmem])
  | @html p hp hmatch =>
    have hmem : t.hit p e.html ∈ t.htmlHits e.html :=
      mem_textHits_iff.2 ⟨p, hp, e.html, List.mem_singleton_self _, hmatch, rfl⟩
    exact of_page (h := t.hit p e.html) (by simp [pageHits, hmem])
  | @script p source hp hsource hmatch =>
    have hmem : t.hit p source ∈ t.scriptHits e.scripts :=
      mem_textHits_iff.2 ⟨p, hp, source, hsource, hmatch, rfl⟩
    exact of_page (h := t.hit p source) (by simp [pageHits, hmem])
  | @header p name value ps values hname hp hvalues hvalue haccepts =>
    have hmem : t.hit p value ∈ t.headerHits e.headers :=
      mem_listedHits_iff.2 ⟨name, ps, values, hname, hvalues, p, hp, value, hvalue, haccepts, rfl⟩
    exact of_page (h := t.hit p value) (by simp [pageHits, hmem])
  | @cookie p name value ps hname hp hvalue haccepts =>
    have hmem : t.hit p value ∈ t.cookieHits e.cookies :=
      mem_keyedHits_iff.2 ⟨name, ps, hname, p, hp, value, by simp [hvalue], haccepts, rfl⟩
    exact of_page (h := t.hit p value) (by simp [pageHits, hmem])
  | @metaTag p name value ps values hname hp hvalues hvalue haccepts =>
    have hmem : t.hit p value ∈ t.metaHits e.metas :=
      mem_listedHits_iff.2 ⟨name, ps, values, hname, hvalues, p, hp, value, hvalue, haccepts, rfl⟩
    exact of_page (h := t.hit p value) (by simp [pageHits, hmem])
  | @dns p type value ps values hname hp hvalues hvalue haccepts =>
    have hmem : t.hit p value ∈ t.dnsHits e.dns :=
      mem_listedHits_iff.2 ⟨type, ps, values, hname, hvalues, p, hp, value, hvalue, haccepts, rfl⟩
    exact of_page (h := t.hit p value) (by simp [pageHits, hmem])
  | @jsText p expression text ps hrender hname hp hvalue haccepts =>
    have hmem : t.hit p text ∈ t.jsHits probe.evaluate :=
      mem_keyedHits_iff.2
        ⟨expression, ps, hname, p, hp, text, by simp [hvalue, scriptText?], haccepts, rfl⟩
    exact of_page (h := t.hit p text) (by simp [pageHits, hrender, hmem])
  | @jsNumber p expression n ps hrender hname hp hvalue haccepts =>
    have hmem : t.hit p (String.ofList n.text) ∈ t.jsHits probe.evaluate :=
      mem_keyedHits_iff.2
        ⟨expression, ps, hname, p, hp, _, by simp [hvalue, scriptText?], haccepts, rfl⟩
    exact of_page (h := t.hit p (String.ofList n.text)) (by simp [pageHits, hrender, hmem])
  | @elementText p rule selector id check hrule hselector hfirst hcheck hmode hp haccepts =>
    have hmem : t.hit p ((Html.Document.ofText e.html).text id) ∈
        t.checkHits (Html.Document.ofText e.html) id check := by
      unfold checkHits
      rcases hmode with hmode | hmode <;>
        simpa only [hmode] using mem_valueHits_iff.2 ⟨p, hp, haccepts, rfl⟩
    exact of_dom hrule hselector hfirst hcheck hmem
  | @elementAttribute p rule selector id check element name value ps hrule hselector hfirst hcheck
      hmode hname hp helement hvalue haccepts =>
    have hmem : t.hit p value ∈ t.checkHits (Html.Document.ofText e.html) id check := by
      unfold checkHits
      simp only [hmode]
      exact mem_keyedHits_iff.2
        ⟨name, ps, hname, p, hp, value, by simp [helement, hvalue], haccepts, rfl⟩
    exact of_dom hrule hselector hfirst hcheck hmem
  | @certIssuer expected issuer hexpected hissuer hpart =>
    have hmem : (⟨t, "", 100⟩ : Hit) ∈ t.certIssuerHits e.certIssuers :=
      mem_certIssuerHits_iff.2 ⟨expected, hexpected, issuer, hissuer, hpart, rfl⟩
    exact of_page (h := ⟨t, "", 100⟩) (by simp [pageHits, hmem])

/-- A page shows a technology exactly as its signs on the page say. -/
theorem shows_iff {v : String} {c : UInt32} :
    t.Shows probe url e v c ↔
      ∃ h ∈ t.pageHits probe url e ++ t.domHits (Html.Document.ofText e.html),
        h.technology = t ∧ h.version = v ∧ h.confidence = c := by
  constructor
  · intro hshows
    obtain ⟨h, hmem, hv, hc⟩ := exists_hit_of_shows hshows
    exact ⟨h, hmem, (tells_of_mem hmem).1, hv, hc⟩
  · rintro ⟨h, hmem, -, rfl, rfl⟩
    exact (tells_of_mem hmem).2

end Technology

namespace Catalog

/-- A page shows the technology of a name with a version and a confidence. -/
def Shows (c : Catalog) (probe : Probe) (url : String) (e : Evidence) (n v : String)
    (confidence : UInt32) : Prop :=
  ∃ t, c.get? n = some t ∧ t.Shows probe url e v confidence

/-- The signs of a name on a page say what the page shows under that name. -/
theorem shows_iff {c : Catalog} (hnamed : c.Named) {probe : Probe} {url : String} {e : Evidence}
    {n v : String} {confidence : UInt32} :
    c.Shows probe url e n v confidence ↔
      ∃ h ∈ c.hits probe url e,
        h.technology.name = n ∧ h.version = v ∧ h.confidence = confidence := by
  have hmem (h : Hit) : h ∈ c.hits probe url e ↔ ∃ t, c.get? t.name = some t ∧
      h ∈ t.pageHits probe url e ++ t.domHits (Html.Document.ofText e.html) := by
    simp only [hits, List.mem_append, List.mem_flatMap, hnamed.get?_name]
    grind
  constructor
  · rintro ⟨t, hget, hshows⟩
    have hname := hnamed n t hget
    subst hname
    obtain ⟨h, hhit, htech, hv, hc⟩ := Technology.shows_iff.1 hshows
    exact ⟨h, (hmem h).2 ⟨t, hget, hhit⟩, congrArg _ htech, hv, hc⟩
  · rintro ⟨h, hhit, rfl, rfl, rfl⟩
    obtain ⟨t, hget, hhit⟩ := (hmem h).1 hhit
    have htells := Technology.tells_of_mem hhit
    rw [htells.1]
    exact ⟨t, hget, htells.2⟩

end Catalog

/-- The signs of a page may be recorded in any order, so that the technologies can be looked for side
by side and the elements of the page at the same time. Whatever the order is, exactly the
technologies that were known or that the page shows are known afterwards, each with the greatest
confidence that anything speaks for and with a version that the order alone may choose between. -/
theorem recorded_signs_sum_up {library : RuleLibrary} {order : List (String × CategoryRule)} {c : Catalog}
    (hload : Catalog.ofLibraryIn order library = .ok c) (probe : Probe) (url : String) (e : Evidence)
    (s : DetectionStore) {hits : List Hit} (hperm : hits.Perm (c.hits probe url e)) (n : String) :
    ((s.addAll hits).contains n = true ↔
      s.contains n = true ∨ ∃ v confidence, c.Shows probe url e n v confidence) ∧
    ∀ d, (s.addAll hits).get? n = some d → d.Sums (s.get? n) (c.Shows probe url e n) := by
  have hnamed := Catalog.named_of_ofLibraryIn hload
  have hshown (v : String) (confidence : UInt32) :
      (∃ h ∈ hits.filter fun h => h.technology.name == n,
        h.version = v ∧ h.confidence = confidence) ↔ c.Shows probe url e n v confidence := by
    rw [Catalog.shows_iff hnamed]
    simp only [List.mem_filter, hperm.mem_iff, beq_iff_eq, and_assoc]
  constructor
  · rw [DetectionStore.contains, Table.contains, ← DetectionStore.get?, DetectionStore.get?_addAll,
      Detection.isSome_afterAll]
    refine or_congr Iff.rfl ?_
    simp only [← hshown]
    constructor
    · rintro ⟨h, hmem⟩
      exact ⟨h.version, h.confidence, h, hmem, rfl, rfl⟩
    · rintro ⟨_, _, h, hmem, -⟩
      exact ⟨h, hmem⟩
  · intro d hd
    rw [DetectionStore.get?_addAll] at hd
    exact (Detection.sums_of_afterAll hd).congr hshown

/-- A page that shows a technology by a cookie and by two issuers of its certificate. -/
def manifoldPage : Evidence :=
  (((Evidence.ofPage "https://example.com" "").withCookie "wp-settings" "").withCertIssuer
    "Automattic, Inc.").withCertIssuer "Automattic CA"

/-- The cookie speaks for less than the issuers, and comes last if the signs are recorded backwards. -/
theorem manifoldPage_recorded_backwards :
    let hits := sampleCatalog.hits ⟨false, fun _ => .ok none⟩ "https://example.com" manifoldPage
    let store := DetectionStore.empty.addAll hits.reverse
    hits.map (fun h => (h.technology.name, h.confidence)) =
        [("WordPress", 40), ("WordPress", 100), ("WordPress", 100)] ∧
      store.contains "WordPress" = true ∧
      ∃ d, store.get? "WordPress" = some d ∧ 100 ≤ d.confidence := by
  intro hits store
  have hissuer : sampleCatalog.Shows ⟨false, fun _ => .ok none⟩ "https://example.com" manifoldPage
      "WordPress" "" 100 := ⟨_, rfl, .certIssuer rfl List.mem_cons_self (by decide)⟩
  obtain ⟨hcontains, hsums⟩ := recorded_signs_sum_up ofLibrary_sampleLibrary _ _ _ DetectionStore.empty
    hits.reverse_perm "WordPress"
  have hthere : store.contains "WordPress" = true := hcontains.2 (.inr ⟨"", 100, hissuer⟩)
  obtain ⟨d, hd⟩ : ∃ d, store.get? "WordPress" = some d := Option.isSome_iff_exists.1 hthere
  exact ⟨by decide, hthere, d, hd, (hsums d hd).sign_le "" 100 hissuer⟩

end SiteTech
