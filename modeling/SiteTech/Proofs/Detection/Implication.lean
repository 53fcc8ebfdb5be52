import SiteTech.Detection.Implication
import SiteTech.Proofs.Detection.Store
import SiteTech.Proofs.Rules.Catalog
import Mathlib.Data.List.Basic
import Mathlib.Logic.Relation

namespace SiteTech

/-- One technology implies another one of the catalog. -/
def Catalog.Implies (c : Catalog) (m n : String) : Prop :=
  ∃ t, c.get? m = some t ∧ (∃ p ∈ PatternTable.all t.channels.implies, p.literal = n) ∧
    (c.get? n).isSome = true

/-- One technology implies another one of the catalog that is new to a store. -/
def Catalog.ImpliesNew (c : Catalog) (s : DetectionStore) (m n : String) : Prop :=
  c.Implies m n ∧ s.contains n = false

/-- A detection is what a signature of an implying technology says of a name. -/
def Pattern.Brings (c : Catalog) (p : Pattern) (n : String) (d : Detection) : Prop :=
  p.literal = n ∧ c.get? n = some d.technology ∧ d.version = p.template ∧ d.confidence = p.confidence

/-- The number of technologies that have not been gone through. -/
def Catalog.unresolved (c : Catalog) (resolving : List String) : Nat :=
  (c.technologies.keys.filter fun n => !resolving.contains n).length

theorem Catalog.unresolved_le_size (c : Catalog) (resolving : List String) :
    c.unresolved resolving ≤ c.size := by
  have hlength : c.technologies.keys.length = c.size := List.length_map _
  exact hlength ▸ List.length_filter_le _ _

theorem Catalog.unresolved_le_of_subset (c : Catalog) {resolving more : List String}
    (hsub : resolving ⊆ more) : c.unresolved more ≤ c.unresolved resolving := by
  apply List.Sublist.length_le
  apply List.monotone_filter_right
  intro n hn
  simp only [Bool.not_eq_true', List.contains_eq_mem, decide_eq_false_iff_not] at hn ⊢
  exact fun hmem => hn (hsub hmem)

/-- Going through one more technology leaves fewer. -/
theorem Catalog.unresolved_cons_lt (c : Catalog) {resolving : List String} {n : String}
    (hn : (c.get? n).isSome = true) (hnew : n ∉ resolving) :
    c.unresolved (n :: resolving) < c.unresolved resolving := by
  have hkey : n ∈ c.technologies.keys := (Table.mem_keys_iff _).2 hn
  have hfilter : c.technologies.keys.filter (fun k => !(n :: resolving).contains k) =
      (c.technologies.keys.filter fun k => !resolving.contains k).filter (fun k => k != n) := by
    rw [List.filter_filter]
    congr 1
    funext k
    simp [bne, Bool.beq_eq_decide_eq]
  rw [unresolved, hfilter]
  exact List.length_filter_lt_length_iff_exists.2 ⟨n, by simp [hkey, hnew], by simp⟩

/-- What a search through signatures does to its state. Nothing that was known changes (`kept`); a
technology is marked only when it is added (`marked`); every addition is what a signature says that
was given or that belongs to an added technology (`brought`), and a chain of new technologies leads
to it (`led`). Afterwards all that the given signatures imply is there (`met`), and so is all that
an added technology implies, unless it had been marked before (`closed`). -/
structure Explored (o : Traversal) (c : Catalog) (patterns : List Pattern) (s s' : Closure) :
    Prop where
  grows : s.resolving ⊆ s'.resolving
  marked : ∀ n ∈ s'.resolving, n ∈ s.resolving ∨ s'.store.contains n = true
  kept : ∀ n d, s.store.get? n = some d → s'.store.get? n = some d
  brought : ∀ n d, s'.store.get? n = some d → s.store.contains n = false →
    (∃ p ∈ patterns, p.Brings c n d) ∨
      ∃ m t, s'.store.contains m = true ∧ c.get? m = some t ∧ ∃ p ∈ o.implies t, p.Brings c n d
  led : ∀ n, s'.store.contains n = true → s.store.contains n = false →
    ∃ p ∈ patterns, (c.get? p.literal).isSome = true ∧ s.store.contains p.literal = false ∧
      Relation.ReflTransGen (c.ImpliesNew s.store) p.literal n
  met : ∀ p ∈ patterns, (c.get? p.literal).isSome = true → s'.store.contains p.literal = true
  closed : ∀ n t, s'.store.contains n = true → s.store.contains n = false → n ∉ s.resolving →
    c.get? n = some t → ∀ p ∈ o.implies t, (c.get? p.literal).isSome = true →
      s'.store.contains p.literal = true

namespace Explored

variable {o : Traversal} {c : Catalog} {ps qs : List Pattern} {p : Pattern} {s s' s'' : Closure}

theorem contains_mono (h : Explored o c ps s s') {n : String} (hn : s.store.contains n = true) :
    s'.store.contains n = true := by
  obtain ⟨d, hd⟩ := s.store.contains_iff.1 hn
  exact s'.store.contains_iff.2 ⟨d, h.kept n d hd⟩

/-- A search that finds everything there already. -/
theorem refl (s : Closure)
    (hmet : ∀ p ∈ ps, (c.get? p.literal).isSome = true → s.store.contains p.literal = true) :
    Explored o c ps s s where
  grows := List.Subset.refl _
  marked _ h := .inl h
  kept _ _ h := h
  brought n d h hnew := by simp [s.store.contains_eq_false_iff.1 hnew] at h
  led n h hnew := by simp [h] at hnew
  met := hmet
  closed n t h hnew := by simp [h] at hnew

/-- Two searches one after the other. -/
theorem append (h : Explored o c ps s s') (h' : Explored o c qs s' s'') :
    Explored o c (ps ++ qs) s s'' where
  grows := List.Subset.trans h.grows h'.grows
  marked n hn := by
    rcases h'.marked n hn with hn' | hn'
    · exact (h.marked n hn').imp id h'.contains_mono
    · exact .inr hn'
  kept n d hd := h'.kept n d (h.kept n d hd)
  brought n d hd hnew := by
    cases hmid : s'.store.contains n with
    | false =>
      rcases h'.brought n d hd hmid with ⟨p, hp, hbrings⟩ | hbrings
      · exact .inl ⟨p, List.mem_append_right _ hp, hbrings⟩
      · exact .inr hbrings
    | true =>
      obtain ⟨d', hd'⟩ := s'.store.contains_iff.1 hmid
      have heq : d' = d := Option.some.inj ((h'.kept n d' hd').symm.trans hd)
      subst heq
      rcases h.brought n d' hd' hnew with ⟨p, hp, hbrings⟩ | ⟨m, t, hm, ht, hbrings⟩
      · exact .inl ⟨p, List.mem_append_left _ hp, hbrings⟩
      · exact .inr ⟨m, t, h'.contains_mono hm, ht, hbrings⟩
  led n hn hnew := by
    cases hmid : s'.store.contains n with
    | true =>
      obtain ⟨p, hp, hrest⟩ := h.led n hmid hnew
      exact ⟨p, List.mem_append_left _ hp, hrest⟩
    | false =>
      have hback {k : String} (hk : s'.store.contains k = false) : s.store.contains k = false := by
        cases hs : s.store.contains k with
        | false => rfl
        | true => rw [h.contains_mono hs] at hk; cases hk
      obtain ⟨p, hp, hcat, hpnew, hpath⟩ := h'.led n hn hmid
      exact ⟨p, List.mem_append_right _ hp, hcat, hback hpnew,
        Relation.ReflTransGen.mono (fun _ _ hedge => ⟨hedge.1, hback hedge.2⟩) _ _ hpath⟩
  met p hp hcat := by
    rcases List.mem_append.1 hp with hp | hp
    · exact h'.contains_mono (h.met p hp hcat)
    · exact h'.met p hp hcat
  closed n t hn hnew hres ht p hp hcat := by
    cases hmid : s'.store.contains n with
    | true => exact h'.contains_mono (h.closed n t hmid hnew hres ht p hp hcat)
    | false =>
      refine h'.closed n t hn hmid (fun hmem => ?_) ht p hp hcat
      rcases h.marked n hmem with hold | hthere
      · exact hres hold
      · rw [hmid] at hthere
        cases hthere

/-- A signature whose technology is new but marked: the technology is added and not gone through. -/
theorem add_marked {u : Technology} (hname : u.name = p.literal) (hget : c.get? p.literal = some u)
    (hnew : s.store.contains p.literal = false) (hmark : p.literal ∈ s.resolving) :
    Explored o c [p] s ⟨s.store.add ⟨u, p.template, p.confidence⟩, s.resolving⟩ := by
  have hadd := s.store.get?_add_of_new (h := ⟨u, p.template, p.confidence⟩) (hname ▸ hnew)
  have hthere : (s.store.add ⟨u, p.template, p.confidence⟩).contains p.literal = true :=
    (DetectionStore.contains_iff _).2 ⟨_, by rw [hadd, if_pos hname]⟩
  have honly {n : String} (hn : (s.store.add ⟨u, p.template, p.confidence⟩).contains n = true)
      (hnew' : s.store.contains n = false) : p.literal = n := by
    obtain ⟨d, hd⟩ := (DetectionStore.contains_iff _).1 hn
    rw [hadd] at hd
    split at hd
    · exact hname.symm.trans ‹_›
    · rw [s.store.contains_eq_false_iff.1 hnew'] at hd
      cases hd
  exact {
    grows := List.Subset.refl _
    marked := fun n hn => .inl hn
    kept := fun n d hd => by
      have hne : u.name ≠ n := fun heq => by
        rw [← heq, hname, s.store.contains_eq_false_iff.1 hnew] at hd
        cases hd
      rw [hadd, if_neg hne]
      exact hd
    brought := fun n d hd hnew' => by
      have heq := honly ((DetectionStore.contains_iff _).2 ⟨d, hd⟩) hnew'
      rw [hadd, if_pos (hname.trans heq)] at hd
      cases hd
      exact .inl ⟨p, List.mem_singleton_self _, heq, heq ▸ hget, rfl, rfl⟩
    led := fun n hn hnew' => by
      have heq := honly hn hnew'
      subst heq
      exact ⟨p, List.mem_singleton_self _, by simp [hget], hnew, .refl⟩
    met := fun q hq _ => by
      cases List.mem_singleton.1 hq
      exact hthere
    closed := fun n t hn hnew' hres => absurd (honly hn hnew' ▸ hmark) hres }

/-- A signature whose technology is new: it is added, and what it implies is searched next. -/
theorem add_new (ho : o.Complete) {u : Technology} (hname : u.name = p.literal)
    (hget : c.get? p.literal = some u) (hnew : s.store.contains p.literal = false)
    (h : Explored o c (o.implies u)
      ⟨s.store.add ⟨u, p.template, p.confidence⟩, p.literal :: s.resolving⟩ s') :
    Explored o c [p] s s' := by
  have hadd := s.store.get?_add_of_new (h := ⟨u, p.template, p.confidence⟩) (hname ▸ hnew)
  have hfirst : (s.store.add ⟨u, p.template, p.confidence⟩).get? p.literal =
      some ⟨u, p.template, p.confidence⟩ := by rw [hadd, if_pos hname]
  have hother {n : String} (hne : p.literal ≠ n) :
      (s.store.add ⟨u, p.template, p.confidence⟩).get? n = s.store.get? n := by
    rw [hadd, if_neg (hname ▸ hne)]
  have hstill {n : String} (hne : p.literal ≠ n) (hn : s.store.contains n = false) :
      (s.store.add ⟨u, p.template, p.confidence⟩).contains n = false := by
    rw [DetectionStore.contains_eq_false_iff, hother hne]
    exact s.store.contains_eq_false_iff.1 hn
  have hthere : s'.store.contains p.literal = true :=
    h.contains_mono ((DetectionStore.contains_iff _).2 ⟨_, hfirst⟩)
  exact {
    grows := List.Subset.trans (List.subset_cons_self _ _) h.grows
    marked := fun n hn => by
      rcases h.marked n hn with hold | hmem
      · rcases List.mem_cons.1 hold with rfl | hold
        · exact .inr hthere
        · exact .inl hold
      · exact .inr hmem
    kept := fun n d hd => by
      have hne : p.literal ≠ n := fun heq => by
        rw [← heq, s.store.contains_eq_false_iff.1 hnew] at hd
        cases hd
      exact h.kept n d ((hother hne).trans hd)
    brought := fun n d hd hnew' => by
      by_cases heq : p.literal = n
      · subst heq
        cases (h.kept _ _ hfirst).symm.trans hd
        exact .inl ⟨p, List.mem_singleton_self _, rfl, hget, rfl, rfl⟩
      · rcases h.brought n d hd (hstill heq hnew') with ⟨q, hq, hbrings⟩ | hbrings
        · exact .inr ⟨p.literal, u, hthere, hget, q, hq, hbrings⟩
        · exact .inr hbrings
    led := fun n hn hnew' => by
      refine ⟨p, List.mem_singleton_self _, by simp [hget], hnew, ?_⟩
      by_cases heq : p.literal = n
      · subst heq
        exact .refl
      · obtain ⟨q, hq, hcat, hqnew, hpath⟩ := h.led n hn (hstill heq hnew')
        have hback {k : String}
            (hk : (s.store.add ⟨u, p.template, p.confidence⟩).contains k = false) :
            s.store.contains k = false := by
          have hne : p.literal ≠ k := fun heq => by
            rw [← heq, DetectionStore.contains_eq_false_iff, hfirst] at hk
            cases hk
          rw [DetectionStore.contains_eq_false_iff, hother hne] at hk
          exact s.store.contains_eq_false_iff.2 hk
        have hedge : c.ImpliesNew s.store p.literal q.literal :=
          ⟨⟨u, hget, ⟨q, (ho.implies u).mem_iff.1 hq, rfl⟩, hcat⟩, hback hqnew⟩
        exact .head hedge (Relation.ReflTransGen.mono (fun _ _ he => ⟨he.1, hback he.2⟩) _ _ hpath)
    met := fun q hq _ => by
      cases List.mem_singleton.1 hq
      exact hthere
    closed := fun n t hn hnew' hres ht q hq hcat => by
      by_cases heq : p.literal = n
      · subst heq
        cases hget.symm.trans ht
        exact h.met q hq hcat
      · refine h.closed n t hn (hstill heq hnew') (fun hmem => ?_) ht q hq hcat
        rcases List.mem_cons.1 hmem with rfl | hmem
        · exact heq rfl
        · exact hres hmem }

end Explored

/-- With enough fuel a search goes through everything. -/
theorem explored_addImplied {o : Traversal} (ho : o.Complete) {c : Catalog} (hnamed : c.Named) :
    ∀ (fuel : Nat) (ps : List Pattern) (s : Closure), c.unresolved s.resolving < fuel →
      Explored o c ps s (addImplied o c fuel ps s) := by
  -- Fuel goes down only where a technology is marked, so it lasts as long as there are unmarked ones.
  intro fuel
  induction fuel with
  | zero =>
    intro ps s hfuel
    omega
  | succ fuel ih =>
    intro ps
    induction ps with
    | nil => exact fun s _ => Explored.refl s (by simp)
    | cons p rest ihrest =>
      intro s hfuel
      have hone : Explored o c [p] s (addImplied o c (fuel + 1) [p] s) := by
        simp only [addImplied, List.foldl_cons, List.foldl_nil]
        split
        · rename_i hnone
          exact .refl s fun q hq hcat => by
            cases List.mem_singleton.1 hq
            simp [hnone] at hcat
        · rename_i u hget
          have hname := hnamed _ u hget
          cases hthere : s.store.contains p.literal with
          | true =>
            exact .refl s fun q hq _ => by
              cases List.mem_singleton.1 hq
              exact hthere
          | false =>
            cases hmark : s.resolving.contains p.literal with
            | true => exact .add_marked hname hget hthere (by simpa using hmark)
            | false =>
              have hfresh : p.literal ∉ s.resolving := by simpa using hmark
              have hless := c.unresolved_cons_lt (by simp [hget]) hfresh
              exact .add_new ho hname hget hthere (ih _ _ (by simp only; omega))
      have hrest := ihrest (addImplied o c (fuel + 1) [p] s)
        (Nat.lt_of_le_of_lt (c.unresolved_le_of_subset hone.grows) hfuel)
      simpa [addImplied] using hone.append hrest

/-- A search changes nothing when all that the signatures imply is there. -/
theorem addImplied_of_met {o : Traversal} {c : Catalog} (fuel : Nat) {ps : List Pattern} {s : Closure}
    (hmet : ∀ p ∈ ps, (c.get? p.literal).isSome = true → s.store.contains p.literal = true) :
    addImplied o c fuel ps s = s := by
  cases fuel with
  | zero => rfl
  | succ fuel =>
    induction ps with
    | nil => rfl
    | cons p rest ih =>
      have hone : addImplied o c (fuel + 1) [p] s = s := by
        simp only [addImplied, List.foldl_cons, List.foldl_nil]
        split
        · rfl
        · rw [if_pos (hmet p List.mem_cons_self (by simp [*]))]
      have hrest := ih fun q hq => hmet q (List.mem_cons_of_mem _ hq)
      simp only [addImplied, List.foldl_cons, List.foldl_nil] at hone hrest ⊢
      rw [hone, hrest]

/-- Dealing with a technology that is there is one search, after its exclusions. -/
theorem explored_resolveOne {o : Traversal} (ho : o.Complete) {c : Catalog} (hnamed : c.Named)
    {s : DetectionStore} {m : String} {t : Technology} (hm : s.contains m = true)
    (ht : c.get? m = some t) :
    ∃ resolving, Explored o c (o.implies t) ⟨dropExcluded o t s, [m]⟩
      ⟨resolveOne o c s m, resolving⟩ := by
  have hfuel : c.unresolved [m] < c.size + 1 := Nat.lt_succ_of_le (c.unresolved_le_size _)
  have h := explored_addImplied ho hnamed (c.size + 1) (o.implies t) ⟨dropExcluded o t s, [m]⟩ hfuel
  refine ⟨(addImplied o c (c.size + 1) (o.implies t) ⟨dropExcluded o t s, [m]⟩).resolving, ?_⟩
  rw [resolveOne, if_pos hm]
  simpa only [ht] using h

end SiteTech
