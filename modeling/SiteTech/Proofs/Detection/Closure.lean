import SiteTech.Proofs.Detection.Implication
import Mathlib.Data.List.Basic

namespace SiteTech

/-- A set of names has all technologies of the catalog that its members imply. -/
def Catalog.ClosedUnderImplies (c : Catalog) (names : String → Prop) : Prop :=
  ∀ m n, names m → c.Implies m n → names n

/-- No technology of the catalog excludes another one. -/
def Catalog.ExcludesNothing (c : Catalog) : Prop :=
  ∀ t ∈ c.technologies.values, PatternTable.all t.channels.excludes = []

theorem dropExcluded_of_excludesNothing {o : Traversal} (ho : o.Complete) {c : Catalog}
    (hnone : c.ExcludesNothing) {m : String} {t : Technology} (ht : c.get? m = some t)
    (s : DetectionStore) : dropExcluded o t s = s := by
  have hempty : o.excludes t = [] := by
    have hperm := ho.excludes t
    rw [hnone t ((c.mem_technologies_iff).2 ⟨m, ht⟩)] at hperm
    exact hperm.eq_nil
  rw [dropExcluded, hempty, List.foldl_nil]

/-- A store on its way from a first store to its closure, when the names in `done` have been dealt
with. A name that is there misses nothing that it implies, unless it was there from the start and is
still to come. -/
structure Closing (o : Traversal) (c : Catalog) (first : DetectionStore) (done : List String)
    (s : DetectionStore) : Prop where
  kept : ∀ n d, first.get? n = some d → s.get? n = some d
  brought : ∀ n d, s.get? n = some d → first.contains n = false →
    ∃ m t, s.contains m = true ∧ c.get? m = some t ∧ ∃ p ∈ o.implies t, p.Brings c n d
  led : ∀ n, s.contains n = true → first.contains n = false →
    ∃ m, first.contains m = true ∧ Relation.TransGen c.Implies m n
  closed : ∀ n t, s.contains n = true → (first.contains n = true → n ∈ done) → c.get? n = some t →
    ∀ p ∈ o.implies t, (c.get? p.literal).isSome = true → s.contains p.literal = true

namespace Closing

variable {o : Traversal} {c : Catalog} {first s : DetectionStore} {done : List String} {m : String}

theorem start (o : Traversal) (c : Catalog) (s : DetectionStore) : Closing o c s [] s where
  kept _ _ h := h
  brought n d h hnew := by simp [s.contains_eq_false_iff.1 hnew] at h
  led n h hnew := by simp [h] at hnew
  closed n t h hdone := absurd (hdone h) List.not_mem_nil

theorem contains_mono (h : Closing o c first done s) {n : String} (hn : first.contains n = true) :
    s.contains n = true := by
  obtain ⟨d, hd⟩ := first.contains_iff.1 hn
  exact s.contains_iff.2 ⟨d, h.kept n d hd⟩

/-- Dealing with one more name of the first store. -/
theorem step (ho : o.Complete) (hnamed : c.Named) (hnone : c.ExcludesNothing)
    (h : Closing o c first done s) (hm : first.contains m = true) :
    Closing o c first (m :: done) (resolveOne o c s m) := by
  have hthere := h.contains_mono hm
  cases ht : c.get? m with
  | none =>
    have hsame : resolveOne o c s m = s := by simp [resolveOne, hthere, ht]
    rw [hsame]
    refine { h with closed := fun n t hn hdone htn => h.closed n t hn (fun hfirst => ?_) htn }
    rcases List.mem_cons.1 (hdone hfirst) with rfl | hmem
    · rw [ht] at htn
      cases htn
    · exact hmem
  | some t =>
    obtain ⟨resolving, hx⟩ := explored_resolveOne ho hnamed hthere ht
    rw [dropExcluded_of_excludesNothing ho hnone ht] at hx
    have himplies {p : Pattern} (hp : p ∈ o.implies t) (hcat : (c.get? p.literal).isSome = true) :
        c.Implies m p.literal := ⟨t, ht, ⟨p, (ho.implies t).mem_iff.1 hp, rfl⟩, hcat⟩
    exact {
      kept := fun n d hd => hx.kept n d (h.kept n d hd)
      brought := fun n d hd hnew => by
        cases hmid : s.contains n with
        | true =>
          obtain ⟨d', hd'⟩ := s.contains_iff.1 hmid
          cases (hx.kept n d' hd').symm.trans hd
          obtain ⟨k, u, hk, hu, hbrings⟩ := h.brought n d hd' hnew
          exact ⟨k, u, hx.contains_mono hk, hu, hbrings⟩
        | false =>
          rcases hx.brought n d hd hmid with hbrings | hbrings
          · exact ⟨m, t, hx.contains_mono hthere, ht, hbrings⟩
          · exact hbrings
      led := fun n hn hnew => by
        cases hmid : s.contains n with
        | true => exact h.led n hmid hnew
        | false =>
          obtain ⟨p, hp, hcat, -, hpath⟩ := hx.led n hn hmid
          have hlast : Relation.ReflTransGen c.Implies p.literal n :=
            Relation.ReflTransGen.mono (fun _ _ hedge => hedge.1) _ _ hpath
          exact ⟨m, hm, .head' (himplies hp hcat) hlast⟩
      -- The mark on `m` prunes nothing: `m` is in the store before its search begins.
      closed := fun n u hn hdone hu p hp hcat => by
        cases hmid : s.contains n with
        | false =>
          refine hx.closed n u hn hmid (fun hmem => ?_) hu p hp hcat
          rw [List.mem_singleton.1 hmem, hthere] at hmid
          cases hmid
        | true =>
          by_cases heq : n = m
          · subst heq
            cases ht.symm.trans hu
            exact hx.met p hp hcat
          · refine hx.contains_mono (h.closed n u hmid (fun hfirst => ?_) hu p hp hcat)
            exact (List.mem_cons.1 (hdone hfirst)).resolve_left heq }

/-- Dealing with several names of the first store. -/
theorem foldl (ho : o.Complete) (hnamed : c.Named) (hnone : c.ExcludesNothing) {names : List String}
    (h : Closing o c first done s) (hnames : ∀ n ∈ names, first.contains n = true) :
    Closing o c first (names.reverse ++ done) (names.foldl (resolveOne o c) s) := by
  induction names generalizing done s with
  | nil => exact h
  | cons m rest ih =>
    have hstep := h.step ho hnamed hnone (hnames m List.mem_cons_self)
    simpa using ih hstep fun n hn => hnames n (List.mem_cons_of_mem _ hn)

end Closing

/-- Dealing with all names of a store closes it. -/
theorem closing_resolveIn {o : Traversal} (ho : o.Complete) {c : Catalog} (hnamed : c.Named)
    (hnone : c.ExcludesNothing) (s : DetectionStore) :
    Closing o c s (s.names.reverse ++ []) (s.resolveIn o c) :=
  (Closing.start o c s).foldl ho hnamed hnone fun _ hn => s.mem_names_iff.1 hn

/-- Nothing is left to do for a store that has all that its technologies imply. -/
theorem resolveIn_of_closed {o : Traversal} (ho : o.Complete) {c : Catalog}
    (hnone : c.ExcludesNothing) {s : DetectionStore}
    (hclosed : c.ClosedUnderImplies fun n => s.contains n = true) : s.resolveIn o c = s := by
  refine List.foldl_fixed' (fun m => ?_) s.names
  unfold resolveOne
  split
  · split
    · rfl
    · rename_i hm _ t ht
      rw [dropExcluded_of_excludesNothing ho hnone ht, addImplied_of_met]
      exact fun p hp hcat =>
        hclosed m p.literal hm ⟨t, ht, ⟨p, (ho.implies t).mem_iff.1 hp, rfl⟩, hcat⟩
  · rfl

theorem closed_resolveIn {o : Traversal} (ho : o.Complete) {c : Catalog}
    (hnamed : c.Named) (hnone : c.ExcludesNothing) (s : DetectionStore) :
    c.ClosedUnderImplies fun n => (s.resolveIn o c).contains n = true := by
  rintro m n hm ⟨t, ht, ⟨p, hp, rfl⟩, hcat⟩
  refine (closing_resolveIn ho hnamed hnone s).closed m t hm (fun hfirst => ?_) ht p
    ((ho.implies t).mem_iff.2 hp) hcat
  simpa [s.mem_names_iff] using hfirst

private theorem reached_of_closed {c : Catalog} {names : String → Prop}
    (hclosed : c.ClosedUnderImplies names) {m n : String} (hm : names m)
    (hpath : Relation.TransGen c.Implies m n) : names n := by
  induction hpath with
  | single hedge => exact hclosed m _ hm hedge
  | tail _ hedge ih => exact hclosed _ _ ih hedge

/-- Where nothing excludes anything, dealing with a store adds exactly the technologies of the
catalog that a chain of implications leads to. So its names become the least set that holds them
and all that they imply. What was known stays as it was; what is added is what a signature of an
implying technology says. Doing so again changes nothing. The order in which signatures are gone
through plays no part. -/
theorem resolve_is_least_closure {library : RuleLibrary} {order : List (String × CategoryRule)} {c : Catalog}
    (hload : Catalog.ofLibraryIn order library = .ok c) (hnone : c.ExcludesNothing) {o : Traversal}
    (ho : o.Complete) (s : DetectionStore) :
    (∀ n, (s.resolveIn o c).contains n = true ↔
      s.contains n = true ∨ ∃ m, s.contains m = true ∧ Relation.TransGen c.Implies m n) ∧
    (c.ClosedUnderImplies (fun n => (s.resolveIn o c).contains n = true) ∧
      ∀ names, c.ClosedUnderImplies names → (∀ n, s.contains n = true → names n) →
        ∀ n, (s.resolveIn o c).contains n = true → names n) ∧
    (∀ n d, s.get? n = some d → (s.resolveIn o c).get? n = some d) ∧
    (∀ n d, (s.resolveIn o c).get? n = some d → s.contains n = false →
      ∃ m t, (s.resolveIn o c).contains m = true ∧ c.get? m = some t ∧
        ∃ p ∈ PatternTable.all t.channels.implies, p.literal = n ∧
          c.get? n = some d.technology ∧ d.version = p.template ∧ d.confidence = p.confidence) ∧
    ∀ o' : Traversal, o'.Complete → (s.resolveIn o c).resolveIn o' c = s.resolveIn o c := by
  have hnamed := Catalog.named_of_ofLibraryIn hload
  have hclosing := closing_resolveIn ho hnamed hnone s
  have hclosed := closed_resolveIn ho hnamed hnone s
  have hreached (n : String) : (s.resolveIn o c).contains n = true ↔
      s.contains n = true ∨ ∃ m, s.contains m = true ∧ Relation.TransGen c.Implies m n := by
    constructor
    · intro hn
      cases hnew : s.contains n with
      | true => exact .inl rfl
      | false => exact .inr (hclosing.led n hn hnew)
    · rintro (hn | ⟨m, hm, hpath⟩)
      · exact hclosing.contains_mono hn
      · exact reached_of_closed hclosed (hclosing.contains_mono hm) hpath
  refine ⟨hreached, ⟨hclosed, fun names hnames hsub n hn => ?_⟩, hclosing.kept, fun n d hd hnew => ?_,
    fun o' ho' => resolveIn_of_closed ho' hnone hclosed⟩
  · rcases (hreached n).1 hn with hn | ⟨m, hm, hpath⟩
    · exact hsub n hn
    · exact reached_of_closed hnames (hsub m hm) hpath
  · obtain ⟨m, t, hm, ht, p, hp, hbrings⟩ := hclosing.brought n d hd hnew
    exact ⟨m, t, hm, ht, p, (ho.implies t).mem_iff.1 hp, hbrings⟩

theorem excludesNothing_sampleCatalog : sampleCatalog.ExcludesNothing := by
  have hall : (sampleCatalog.technologies.values.all fun t =>
      (PatternTable.all t.channels.excludes).isEmpty) = true := rfl
  exact fun t ht => List.isEmpty_iff.1 (List.all_eq_true.1 hall t ht)

/-- Of two technologies that imply each other, the first brings the second along. -/
theorem wordPress_brings_php :
    (((sampleCatalog.get? "WordPress").elim DetectionStore.empty fun t =>
      DetectionStore.empty.add ⟨t, "", 40⟩).resolve sampleCatalog).contains "PHP" = true :=
  ((resolve_is_least_closure ofLibrary_sampleLibrary excludesNothing_sampleCatalog
    Traversal.complete_byName _).1 "PHP").2
    (.inr ⟨"WordPress", rfl, .single ⟨_, rfl, ⟨_, List.mem_cons_self, rfl⟩, rfl⟩⟩)

end SiteTech
