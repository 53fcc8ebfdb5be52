import SiteTech.Detection.Page
import SiteTech.Proofs.Detection.Closure
import SiteTech.Proofs.Detection.Conflict

namespace SiteTech

/-- Names at rest: none of them excludes another one, and all that they imply is among them. -/
structure Catalog.AtRest (c : Catalog) (names : Set String) : Prop where
  spared : ∀ m ∈ names, ∀ n ∈ names, ¬c.Excludes m n
  closed : c.ClosedUnderImplies fun n => n ∈ names

/-- Implications lead from some names to another one. -/
def Catalog.CanBring (c : Catalog) (names : Set String) (n : String) : Prop :=
  ∃ m ∈ names, Relation.TransGen c.Implies m n

/-- Some name excludes one that implications lead to. Such a name can be dropped and brought along in one
round. -/
def Catalog.Contends (c : Catalog) (names : Set String) : Prop :=
  ∃ m ∈ names, ∃ n, c.CanBring names n ∧ c.Excludes m n

/-- Among some names and those that implications lead to from there, none that implications lead to
excludes another one or is excluded. -/
def Catalog.ExclusionsKeepClear (c : Catalog) (names : Set String) : Prop :=
  ∀ m n, (m ∈ names ∨ c.CanBring names m) → (n ∈ names ∨ c.CanBring names n) → c.Excludes m n →
    ¬c.CanBring names m ∧ ¬c.CanBring names n

variable {o : Traversal} {c : Catalog} {s : DetectionStore} {m : String} {t : Technology}

theorem dropExcluded_of_spared (ho : o.Complete) (ht : c.get? m = some t)
    (hspared : ∀ n ∈ s.nameSet, ¬c.Excludes m n) : dropExcluded o t s = s := by
  classical
  apply DetectionStore.ext_get?
  intro n
  rw [get?_dropExcluded ho ht]
  split
  · rename_i hexcludes
    have habsent : s.contains n = false := by
      rw [← Bool.not_eq_true, ← s.mem_nameSet_iff]
      exact fun hn => hspared n hn hexcludes
    exact (s.contains_eq_false_iff.1 habsent).symm
  · rfl

/-- At rest, a technology leaves the store at its turn as it is. -/
theorem resolveOne_of_atRest (ho : o.Complete) (hrest : c.AtRest s.nameSet) (m : String) :
    resolveOne o c s m = s := by
  unfold resolveOne
  split
  · rename_i hm
    split
    · rfl
    · rename_i t ht
      have hmet : ∀ p ∈ o.implies t, (c.get? p.literal).isSome = true → s.contains p.literal = true := by
        intro p hp hcat
        have himplies : c.Implies m p.literal := ⟨t, ht, ⟨p, (ho.implies t).mem_iff.1 hp, rfl⟩, hcat⟩
        exact s.mem_nameSet_iff.1 (hrest.closed m _ (s.mem_nameSet_iff.2 hm) himplies)
      rw [dropExcluded_of_spared ho ht (hrest.spared m (s.mem_nameSet_iff.2 hm)), addImplied_of_met _ hmet]
  · rfl

theorem resolveIn_of_atRest (ho : o.Complete) (hrest : c.AtRest s.nameSet) : s.resolveIn o c = s :=
  List.foldl_fixed' (resolveOne_of_atRest ho hrest) s.names

/-- A page without signs leaves a store that is at rest. -/
theorem Catalog.detect_of_atRest (ho : o.Complete) (hrest : c.AtRest s.nameSet) (a : Arrangement)
    {probe : Probe} {url : String} {e : Evidence} (hnone : c.hits probe url e = []) : c.detect o a probe url e s = s := by
  have harranged : a.arrange [] = [] := (a.perm []).eq_nil
  rw [Catalog.detect, hnone, harranged]
  exact resolveIn_of_atRest ho hrest

section Settling

variable {first names : Set String} {n : String}

theorem mem_settle_of_not_excludes (hn : n ∈ names) (hspared : ¬c.Excludes m n) : n ∈ c.settle names m := by
  rw [Catalog.settle]
  split
  · exact .inl ⟨hn, hspared⟩
  · exact hn

/-- What a technology implies is there after its turn. -/
theorem mem_settle_of_implies (hm : m ∈ names) (himplies : c.Implies m n) : n ∈ c.settle names m := by
  obtain ⟨t, ht, -⟩ := id himplies
  rw [Catalog.settle, if_pos ⟨hm, by simp [ht]⟩]
  by_cases hthere : n ∈ c.spared names m
  · exact .inl hthere
  · exact .inr (.single ⟨himplies, hthere⟩)

theorem canBring_of_transGen (hm : m ∈ first)
    (hpath : Relation.TransGen (c.ImpliesOutside (c.spared names m)) m n) : c.CanBring first n :=
  ⟨m, hm, Relation.TransGen.mono (fun _ _ hedge => hedge.1) _ _ hpath⟩

theorem mem_or_canBring_of_mem_settle (hm : m ∈ first) (hn : n ∈ c.settle names m) :
    n ∈ names ∨ c.CanBring first n := by
  rw [Catalog.settle] at hn
  split at hn
  · rcases hn with hspared | hpath
    · exact .inl hspared.1
    · exact .inr (canBring_of_transGen hm hpath)
  · exact .inl hn

/-- What is there and is not excluded stays. -/
theorem mem_foldl_settle {rest : List String} (hspared : ∀ m ∈ rest, ¬c.Excludes m n) (hn : n ∈ names) :
    n ∈ rest.foldl c.settle names := by
  induction rest generalizing names with
  | nil => exact hn
  | cons m rest ih =>
    have hstep := mem_settle_of_not_excludes hn (hspared m List.mem_cons_self)
    exact ih (fun k hk => hspared k (List.mem_cons_of_mem _ hk)) hstep

/-- What is there in the end was there, or can be brought along. -/
theorem mem_or_canBring_of_mem_foldl {rest : List String} (hrest : ∀ m ∈ rest, m ∈ first)
    (hn : n ∈ rest.foldl c.settle names) : n ∈ names ∨ c.CanBring first n := by
  induction rest generalizing names with
  | nil => exact .inl hn
  | cons m rest ih =>
    rcases ih (fun k hk => hrest k (List.mem_cons_of_mem _ hk)) hn with hmid | hbring
    · exact mem_or_canBring_of_mem_settle (hrest m List.mem_cons_self) hmid
    · exact .inr hbring

variable {all done rest : List String}

/-- In a round that leaves the names as they were, no name is missing in between, unless exclusions and
implications contend. -/
theorem mem_foldl_of_foldl_eq (hcalm : ¬c.Contends {n | n ∈ all}) (hall : all = done ++ rest)
    (hsame : all.foldl c.settle {n | n ∈ all} = {n | n ∈ all}) (hn : n ∈ all) :
    n ∈ done.foldl c.settle {n | n ∈ all} := by
  by_cases hbring : c.CanBring {n | n ∈ all} n
  · apply mem_foldl_settle _ hn
    intro m hm hexcludes
    have hmall : m ∈ all := hall ▸ List.mem_append_left _ hm
    exact hcalm ⟨m, hmall, n, hbring, hexcludes⟩
  · -- What cannot come back has not been dropped.
    have hend : n ∈ (done ++ rest).foldl c.settle {n | n ∈ all} := by
      rw [← hall, hsame]
      exact hn
    rw [List.foldl_append] at hend
    have hrest : ∀ m ∈ rest, m ∈ {n | n ∈ all} := fun m hm => hall ▸ List.mem_append_right _ hm
    exact (mem_or_canBring_of_mem_foldl hrest hend).resolve_right hbring

/-- In such a round all names come to their turns, and find nothing to do. -/
theorem atRest_of_foldl_eq (hcalm : ¬c.Contends {n | n ∈ all})
    (hsame : all.foldl c.settle {n | n ∈ all} = {n | n ∈ all}) : c.AtRest {n | n ∈ all} where
  spared := by
    intro m hm n hn hexcludes
    obtain ⟨done, rest, hall⟩ := List.append_of_mem hm
    have hthere := mem_foldl_of_foldl_eq hcalm hall hsame hm
    have hstays : n ∈ (done ++ [m]).foldl c.settle {n | n ∈ all} :=
      mem_foldl_of_foldl_eq hcalm (by rw [hall, List.append_assoc, List.singleton_append]) hsame hn
    obtain ⟨t, ht, -⟩ := id hexcludes
    rw [List.foldl_append, List.foldl_cons, List.foldl_nil, Catalog.settle,
      if_pos ⟨hthere, by simp [ht]⟩] at hstays
    rcases hstays with hspared | hpath
    · exact hspared.2 hexcludes
    · exact hcalm ⟨m, hm, n, canBring_of_transGen hm hpath, hexcludes⟩
  closed := by
    intro m n hm himplies
    obtain ⟨done, rest, hall⟩ := List.append_of_mem hm
    have hthere := mem_foldl_of_foldl_eq hcalm hall hsame hm
    have hbring : c.CanBring {n | n ∈ all} n := ⟨m, hm, .single himplies⟩
    have hadded := mem_settle_of_implies hthere himplies
    have hspared : ∀ k ∈ rest, ¬c.Excludes k n := by
      intro k hk hexcludes
      have hkall : k ∈ all := by simp [hall, hk]
      exact hcalm ⟨k, hkall, n, hbring, hexcludes⟩
    have hend := mem_foldl_settle hspared hadded
    rw [← List.foldl_cons, ← List.foldl_append, ← hall, hsame] at hend
    exact hend

end Settling

theorem atRest_of_nameSet_resolveIn (ho : o.Complete) (hnamed : c.Named) (hcalm : ¬c.Contends s.nameSet)
    (hsame : (s.resolveIn o c).nameSet = s.nameSet) : c.AtRest s.nameSet := by
  rw [DetectionStore.resolveIn, nameSet_foldl_resolveOne ho hnamed] at hsame
  exact atRest_of_foldl_eq hcalm hsame

/-- Names on their way to rest, when those in `done` have been dealt with. Where exclusions keep clear of
implications nothing that has been brought along is dropped again, and nothing that has been dropped comes
back. -/
structure Catalog.ComesToRest (c : Catalog) (first : Set String) (done : List String) (names : Set String) :
    Prop where
  led : ∀ n ∈ names, n ∈ first ∨ c.CanBring first n
  closed : ∀ m n, m ∈ names → (m ∈ first → m ∈ done) → c.Implies m n → n ∈ names
  spared : ∀ m n, m ∈ done → m ∈ names → n ∈ names → ¬c.Excludes m n

namespace Catalog.ComesToRest

variable {first names : Set String} {done : List String}

theorem canBring_of_implies (h : c.ComesToRest first done names) {n : String} (hm : m ∈ names)
    (himplies : c.Implies m n) : c.CanBring first n := by
  rcases h.led m hm with hfirst | ⟨k, hk, hpath⟩
  · exact ⟨m, hfirst, .single himplies⟩
  · exact ⟨k, hk, hpath.tail himplies⟩

/-- A name that has no turn leaves everything as it is. -/
theorem skip (h : c.ComesToRest first done names) (hturn : ¬(m ∈ names ∧ (c.get? m).isSome = true)) :
    c.ComesToRest first (m :: done) names where
  led := h.led
  closed := by
    intro k n hk hdone himplies
    apply h.closed k n hk _ himplies
    intro hfirst
    rcases List.mem_cons.1 (hdone hfirst) with rfl | hmem
    · obtain ⟨t, ht, -⟩ := himplies
      exact absurd ⟨hk, by simp [ht]⟩ hturn
    · exact hmem
  spared := by
    intro k n hdone hk hn hexcludes
    rcases List.mem_cons.1 hdone with rfl | hmem
    · obtain ⟨t, ht, -⟩ := hexcludes
      exact hturn ⟨hk, by simp [ht]⟩
    · exact h.spared k n hmem hk hn hexcludes

/-- Dealing with one more name. -/
theorem settle (hclear : c.ExclusionsKeepClear first) (h : c.ComesToRest first done names) (hm : m ∈ first) :
    c.ComesToRest first (m :: done) (c.settle names m) := by
  have hled : ∀ n ∈ c.settle names m, n ∈ first ∨ c.CanBring first n := by
    intro n hn
    rcases mem_or_canBring_of_mem_settle hm hn with hthere | hbring
    · exact h.led n hthere
    · exact .inr hbring
  by_cases hturn : m ∈ names ∧ (c.get? m).isSome = true
  · have hmet {n : String} (himplies : c.Implies m n) := mem_settle_of_implies hturn.1 himplies
    rw [Catalog.settle, if_pos hturn] at hled hmet ⊢
    have hspares {n : String} (hn : c.CanBring first n) : ¬c.Excludes m n := by
      intro hexcludes
      exact (hclear m n (.inl hm) (.inr hn) hexcludes).2 hn
    constructor
    · exact hled
    · -- What is implied can be brought along, so `m` does not drop it.
      rintro k n (hk | hpath) hdone himplies
      · have hn := h.canBring_of_implies hk.1 himplies
        by_cases heq : k = m
        · subst heq
          exact hmet himplies
        · have hnames := h.closed k n hk.1 (fun hfirst => (List.mem_cons.1 (hdone hfirst)).resolve_left heq) himplies
          exact .inl ⟨hnames, hspares hn⟩
      · by_cases hthere : n ∈ c.spared names m
        · exact .inl hthere
        · exact .inr (hpath.tail ⟨himplies, hthere⟩)
    · -- What excludes or is excluded has not been brought along, so it was there before.
      intro k n hdone hk hn hexcludes
      obtain ⟨hkfirst, hnfirst⟩ := hclear k n (hled k hk) (hled n hn) hexcludes
      have hkspared := hk.resolve_right fun hpath => hkfirst (canBring_of_transGen hm hpath)
      have hnspared := hn.resolve_right fun hpath => hnfirst (canBring_of_transGen hm hpath)
      rcases List.mem_cons.1 hdone with rfl | hmem
      · exact hnspared.2 hexcludes
      · exact h.spared k n hmem hkspared.1 hnspared.1 hexcludes
  · rw [Catalog.settle, if_neg hturn]
    exact h.skip hturn

theorem foldl (hclear : c.ExclusionsKeepClear first) {rest : List String} (hrest : ∀ n ∈ rest, n ∈ first)
    (h : c.ComesToRest first done names) :
    c.ComesToRest first (rest.reverse ++ done) (rest.foldl c.settle names) := by
  induction rest generalizing done names with
  | nil => exact h
  | cons m rest ih =>
    have hstep := h.settle hclear (hrest m List.mem_cons_self)
    simpa using ih (fun n hn => hrest n (List.mem_cons_of_mem _ hn)) hstep

/-- When all first names have been dealt with, the names are at rest. -/
theorem atRest (hclear : c.ExclusionsKeepClear first) (h : c.ComesToRest first done names)
    (hdone : ∀ n ∈ first, n ∈ done) : c.AtRest names where
  spared := by
    intro m hm n hn hexcludes
    have hfirst := (h.led m hm).resolve_right (hclear m n (h.led m hm) (h.led n hn) hexcludes).1
    exact h.spared m n (hdone m hfirst) hm hn hexcludes
  closed m n hm himplies := h.closed m n hm (hdone m) himplies

end Catalog.ComesToRest

/-- Where exclusions keep clear of what implications can bring along, one round is enough. -/
theorem atRest_resolveIn (ho : o.Complete) (hnamed : c.Named) (hclear : c.ExclusionsKeepClear s.nameSet) :
    c.AtRest (s.resolveIn o c).nameSet := by
  have hstart : c.ComesToRest s.nameSet [] s.nameSet :=
    ⟨fun n hn => .inl hn, fun m n hm hdone => absurd (hdone hm) List.not_mem_nil,
      fun m n hdone => absurd hdone List.not_mem_nil⟩
  have hnames : ∀ n ∈ s.names, n ∈ s.nameSet := fun n hn => hn
  have hend := hstart.foldl hclear hnames
  rw [DetectionStore.resolveIn, nameSet_foldl_resolveOne ho hnamed]
  apply hend.atRest hclear
  intro n hn
  exact List.mem_append_left _ (List.mem_reverse.2 hn)

/-- When a store has been dealt with and is at rest, another round changes nothing, whatever the order is in
which signatures are gone through, and neither does a page without signs. When it is not at rest, another
round leaves other names, unless one of its technologies excludes one that implications lead to. One round
leads to rest where exclusions keep clear of what implications can bring along. -/
theorem round_at_rest_is_last {library : RuleLibrary} {order : List (String × CategoryRule)} {c : Catalog}
    (hload : Catalog.ofLibraryIn order library = .ok c) {o o' : Traversal} (ho : o.Complete)
    (ho' : o'.Complete) (s : DetectionStore) :
    (c.AtRest (s.resolveIn o c).nameSet →
      (s.resolveIn o c).resolveIn o' c = s.resolveIn o c ∧
        ∀ a probe url e, c.hits probe url e = [] →
          c.detect o' a probe url e (s.resolveIn o c) = s.resolveIn o c) ∧
    (¬c.AtRest (s.resolveIn o c).nameSet → ¬c.Contends (s.resolveIn o c).nameSet →
      ((s.resolveIn o c).resolveIn o' c).nameSet ≠ (s.resolveIn o c).nameSet) ∧
    (c.ExclusionsKeepClear s.nameSet → c.AtRest (s.resolveIn o c).nameSet) := by
  have hnamed := Catalog.named_of_ofLibraryIn hload
  refine ⟨fun hrest => ⟨resolveIn_of_atRest ho' hrest, ?_⟩, fun hrest hcalm hsame => hrest ?_,
    atRest_resolveIn ho hnamed⟩
  · intro a probe url e hnone
    exact c.detect_of_atRest ho' hrest a hnone
  · exact atRest_of_nameSet_resolveIn ho' hnamed hcalm hsame

/-- A page that shows nothing can still change the findings: the server that a panel has brought along drops
the other server only when the store is dealt with again. -/
theorem second_round_drops_server :
    Catalog.ofLibrary serverLibrary = .ok serverCatalog ∧
      let first := (serverStore "Apache" "Panel").resolve serverCatalog
      let page := Evidence.ofPage "http://example.com" ""
      let probe : Probe := ⟨false, fun _ => .ok none⟩
      first.names = ["Apache", "Nginx", "Panel"] ∧
        (first.resolve serverCatalog).names = ["Nginx", "Panel"] ∧
        serverCatalog.hits probe "http://example.com" page = [] ∧
        (serverCatalog.detect .byName .inOrder probe "http://example.com" page first).findings.map
          Finding.name = ["Nginx", "Panel"] := by
  refine ⟨rfl, ?_, ?_, ?_, ?_⟩
  · decide
  · decide
  · apply List.isEmpty_iff.1
    decide
  · decide

/-- A library in which one server excludes another one, and a technology that has to do with neither is
implied. -/
def blogLibrary : RuleLibrary :=
  { categories := Table.ofList [("1", ⟨"Blogs", 0⟩)]
    technologies := Table.ofList
      [("Apache", TechRule.bare),
       ("Nginx", { TechRule.bare with
          channels := { TechRule.bare.channels with excludes := some (.single "Apache") } }),
       ("PHP", TechRule.bare),
       ("WordPress", { TechRule.bare with
          channels := { TechRule.bare.channels with implies := some (.single "PHP") } })] }

/-- The catalog of the library with a blog. -/
def blogCatalog : Catalog := (Catalog.ofLibrary blogLibrary).toOption.getD ⟨Table.empty, Table.empty⟩

/-- A store in which the blog and both servers have been found. -/
def blogStore : DetectionStore :=
  ["Apache", "Nginx", "WordPress"].foldl (fun s name =>
    (blogCatalog.get? name).elim s fun t => s.add ⟨t, "", 100⟩) DetectionStore.empty

private theorem excludes_blogCatalog {m n : String} (h : blogCatalog.Excludes m n) :
    m = "Nginx" ∧ n = "Apache" := by
  have hall : (blogCatalog.technologies.toList.all fun e =>
      (PatternTable.all e.2.channels.excludes).all fun p => e.1 == "Nginx" && p.literal == "Apache") = true := by
    decide
  obtain ⟨t, ht, p, hp, rfl⟩ := h
  have hentry := List.all_eq_true.1 hall _ ((Table.get?_eq_some_iff _).1 ht)
  simpa using List.all_eq_true.1 hentry p hp

private theorem implies_blogCatalog {m n : String} (h : blogCatalog.Implies m n) : n = "PHP" := by
  have hall : (blogCatalog.technologies.toList.all fun e =>
      (PatternTable.all e.2.channels.implies).all fun p => p.literal == "PHP") = true := by
    decide
  obtain ⟨t, ht, ⟨p, hp, rfl⟩, -⟩ := h
  have hentry := List.all_eq_true.1 hall _ ((Table.get?_eq_some_iff _).1 ht)
  simpa using List.all_eq_true.1 hentry p hp

private theorem exclusionsKeepClear_blog : blogCatalog.ExclusionsKeepClear blogStore.nameSet := by
  have hbrought {n : String} (hn : blogCatalog.CanBring blogStore.nameSet n) : n = "PHP" := by
    obtain ⟨m, -, hpath⟩ := hn
    cases hpath with
    | single hedge => exact implies_blogCatalog hedge
    | tail _ hedge => exact implies_blogCatalog hedge
  intro m n _ _ hexcludes
  obtain ⟨rfl, rfl⟩ := excludes_blogCatalog hexcludes
  exact ⟨fun h => absurd (hbrought h) (by decide), fun h => absurd (hbrought h) (by decide)⟩

/-- A blog brings its language along, one server drops the other, and that is all. -/
theorem blog_comes_to_rest :
    (blogStore.resolve blogCatalog).names = ["Nginx", "PHP", "WordPress"] ∧
      (blogStore.resolve blogCatalog).resolve blogCatalog = blogStore.resolve blogCatalog := by
  have hload : Catalog.ofLibrary blogLibrary = .ok blogCatalog := rfl
  have hround := round_at_rest_is_last hload Traversal.complete_byName Traversal.complete_byName blogStore
  refine ⟨by decide, (hround.1 (hround.2.2 exclusionsKeepClear_blog)).1⟩

end SiteTech
