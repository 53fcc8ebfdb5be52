import SiteTech.Proofs.Detection.Closure
import SiteTech.Proofs.Detection.Exclusion

namespace SiteTech

namespace DetectionStore

/-- Two stores know the same of every name that an earlier store does not have. -/
def AgreeBeyond (old s s' : DetectionStore) : Prop :=
  ∀ n, old.contains n = false → s.get? n = s'.get? n

variable {old s s' s'' : DetectionStore}

theorem AgreeBeyond.refl (s : DetectionStore) : old.AgreeBeyond s s := fun _ _ => rfl

theorem AgreeBeyond.symm (h : old.AgreeBeyond s s') : old.AgreeBeyond s' s := fun n hn => (h n hn).symm

theorem AgreeBeyond.trans (h : old.AgreeBeyond s s') (h' : old.AgreeBeyond s' s'') :
    old.AgreeBeyond s s'' := fun n hn => (h n hn).trans (h' n hn)

theorem AgreeBeyond.contains_eq (h : old.AgreeBeyond s s') {n : String} (hn : old.contains n = false) :
    s.contains n = s'.contains n := congrArg Option.isSome (h n hn)

theorem AgreeBeyond.add (h : old.AgreeBeyond s s') (hit : Hit) : old.AgreeBeyond (s.add hit) (s'.add hit) := by
  intro n hn
  rw [get?_add, get?_add, h n hn]

/-- A sign of a technology that was there changes nothing beyond. -/
theorem agreeBeyond_add (s : DetectionStore) {hit : Hit} (hhit : old.contains hit.technology.name = true) :
    old.AgreeBeyond s (s.add hit) := by
  intro n hn
  refine (get?_add_of_ne s hit fun heq => ?_).symm
  rw [heq, hhit] at hn
  cases hn

end DetectionStore

/-- Names in order are told by the names that are there. -/
theorem eq_of_sorted_of_mem_iff {l l' : List String} (hl : l.Pairwise (· < ·)) (hl' : l'.Pairwise (· < ·))
    (h : ∀ n, n ∈ l ↔ n ∈ l') : l = l' := by
  have hperm : l.Perm l' :=
    (List.perm_ext_iff_of_nodup (hl.imp String.ne_of_lt) (hl'.imp String.ne_of_lt)).2 h
  exact hperm.eq_of_pairwise (fun _ _ _ _ hlt hgt => absurd hgt (String.lt_asymm hlt)) hl hl'

/-- Two states of a search agree on every name that an earlier store does not have. -/
structure Closure.AgreeBeyond (old : DetectionStore) (s s' : Closure) : Prop where
  store : old.AgreeBeyond s.store s'.store
  resolving : ∀ n, old.contains n = false → (n ∈ s.resolving ↔ n ∈ s'.resolving)

namespace Closure.AgreeBeyond

variable {old : DetectionStore} {s s' s'' : Closure}

theorem refl (s : Closure) : Closure.AgreeBeyond old s s := ⟨.refl s.store, fun _ _ => .rfl⟩

theorem symm (h : Closure.AgreeBeyond old s s') : Closure.AgreeBeyond old s' s :=
  ⟨h.store.symm, fun n hn => (h.resolving n hn).symm⟩

theorem trans (h : Closure.AgreeBeyond old s s') (h' : Closure.AgreeBeyond old s' s'') :
    Closure.AgreeBeyond old s s'' :=
  ⟨h.store.trans h'.store, fun n hn => (h.resolving n hn).trans (h'.resolving n hn)⟩

end Closure.AgreeBeyond

section Search

variable {o : Traversal} {c : Catalog} {old : DetectionStore} (ho : o.Complete) (hnamed : c.Named)
  (hclosed : c.ClosedUnderImplies fun n => old.contains n = true)

theorem addImplied_append (o : Traversal) (c : Catalog) (fuel : Nat) (ps qs : List Pattern) (s : Closure) :
    addImplied o c fuel (ps ++ qs) s = addImplied o c fuel qs (addImplied o c fuel ps s) := by
  cases fuel with
  | zero => rfl
  | succ fuel => exact List.foldl_append

include ho hclosed

/-- All that a technology implies which was there was there as well. -/
theorem known_of_implies {m : String} {t : Technology} (hm : old.contains m = true) (ht : c.get? m = some t) :
    ∀ p ∈ o.implies t, (c.get? p.literal).isSome = true → old.contains p.literal = true :=
  fun p hp hcat => hclosed m p.literal hm ⟨t, ht, ⟨p, (ho.implies t).mem_iff.1 hp, rfl⟩, hcat⟩

include hnamed

/-- A search through signatures of technologies that were there changes nothing beyond. -/
theorem agreeBeyond_addImplied (fuel : Nat) (ps : List Pattern) (s : Closure)
    (hps : ∀ p ∈ ps, (c.get? p.literal).isSome = true → old.contains p.literal = true) :
    Closure.AgreeBeyond old s (addImplied o c fuel ps s) := by
  induction fuel generalizing ps s with
  | zero => exact .refl s
  | succ fuel ih =>
    unfold addImplied
    refine List.foldlRecOn ps _ (motive := fun (s' : Closure) => Closure.AgreeBeyond old s s')
      (.refl s) fun s' hs' p hp => hs'.trans ?_
    cases hget : c.get? p.literal with
    | none => exact .refl s'
    | some u =>
      have hthere := hps p hp (by simp [hget])
      have hadd : old.AgreeBeyond s'.store (s'.store.add ⟨u, p.template, p.confidence⟩) :=
        DetectionStore.agreeBeyond_add s'.store (by rw [hnamed _ u hget]; exact hthere)
      dsimp only
      split
      · exact .refl s'
      · split
        · exact ⟨hadd, fun _ _ => .rfl⟩
        · have hmarked : Closure.AgreeBeyond old s'
              ⟨s'.store.add ⟨u, p.template, p.confidence⟩, p.literal :: s'.resolving⟩ := by
            refine ⟨hadd, fun n hn => ?_⟩
            have hne : n ≠ p.literal := fun heq => by
              rw [heq, hthere] at hn
              cases hn
            simp [hne]
          exact hmarked.trans (ih _ _ (known_of_implies ho hclosed hthere hget))

/-- A search goes on alike from states that agree. -/
theorem Closure.AgreeBeyond.addImplied {s s' : Closure} (h : Closure.AgreeBeyond old s s') (fuel : Nat)
    (ps : List Pattern) :
    Closure.AgreeBeyond old (addImplied o c fuel ps s) (SiteTech.addImplied o c fuel ps s') := by
  induction fuel generalizing ps s s' with
  | zero => exact h
  | succ fuel ih =>
    induction ps generalizing s s' with
    | nil => exact h
    | cons p rest ihrest =>
      rw [← List.singleton_append, addImplied_append, addImplied_append]
      refine ihrest ?_
      cases hthere : old.contains p.literal with
      | true =>
        have hone (s : Closure) := agreeBeyond_addImplied ho hnamed hclosed (fuel + 1) [p] s
          fun q hq _ => by rw [List.mem_singleton.1 hq, hthere]
        exact (hone s).symm.trans (h.trans (hone s'))
      | false =>
        simp only [SiteTech.addImplied, List.foldl_cons, List.foldl_nil]
        cases hget : c.get? p.literal with
        | none => exact h
        | some u =>
          have hadd := h.store.add ⟨u, p.template, p.confidence⟩
          have hmark : s.resolving.contains p.literal = s'.resolving.contains p.literal := by
            rw [Bool.eq_iff_iff, List.contains_iff_mem, List.contains_iff_mem]
            exact h.resolving _ hthere
          dsimp only
          rw [h.store.contains_eq hthere, hmark]
          split
          · exact h
          · split
            · exact ⟨hadd, h.resolving⟩
            · refine ih ⟨hadd, fun n hn => ?_⟩ (o.implies u)
              simp [h.resolving n hn]

variable (hnone : c.ExcludesNothing)

include hnone

/-- Dealing with a technology that was there changes nothing beyond. -/
theorem agreeBeyond_resolveOne {m : String} (hm : old.contains m = true) (s : DetectionStore) :
    old.AgreeBeyond s (resolveOne o c s m) := by
  unfold resolveOne
  split
  · cases ht : c.get? m with
    | none => exact .refl s
    | some t =>
      dsimp only
      rw [dropExcluded_of_excludesNothing ho hnone ht s]
      exact (agreeBeyond_addImplied ho hnamed hclosed _ _ ⟨s, [m]⟩ (known_of_implies ho hclosed hm ht)).store
  · exact .refl s

/-- Dealing with a further technology goes on alike from stores that agree. -/
theorem DetectionStore.AgreeBeyond.resolveOne {s s' : DetectionStore} (h : old.AgreeBeyond s s') {m : String}
    (hm : old.contains m = false) :
    old.AgreeBeyond (resolveOne o c s m) (SiteTech.resolveOne o c s' m) := by
  unfold SiteTech.resolveOne
  rw [h.contains_eq hm]
  split
  · cases ht : c.get? m with
    | none => exact h
    | some t =>
      dsimp only
      rw [dropExcluded_of_excludesNothing ho hnone ht s, dropExcluded_of_excludesNothing ho hnone ht s']
      have hstart : Closure.AgreeBeyond old ⟨s, [m]⟩ ⟨s', [m]⟩ := ⟨h, fun _ _ => .rfl⟩
      exact (hstart.addImplied ho hnamed hclosed _ _).store
  · exact h

/-- Of the names that are dealt with only those beyond matter beyond. -/
theorem DetectionStore.AgreeBeyond.foldl_filter {s s' : DetectionStore} (h : old.AgreeBeyond s s')
    (names : List String) :
    old.AgreeBeyond (names.foldl (SiteTech.resolveOne o c) s)
      ((names.filter fun n => !old.contains n).foldl (SiteTech.resolveOne o c) s') := by
  induction names generalizing s s' with
  | nil => exact h
  | cons m rest ih =>
    cases hm : old.contains m with
    | true =>
      rw [List.foldl_cons, List.filter_cons_of_neg (by simp [hm])]
      exact ih ((agreeBeyond_resolveOne ho hnamed hclosed hnone hm s).symm.trans h)
    | false =>
      rw [List.foldl_cons, List.filter_cons_of_pos (by simp [hm]), List.foldl_cons]
      exact ih (h.resolveOne ho hnamed hclosed hnone hm)

/-- Dealing with all technologies of stores that agree leaves stores that agree. -/
theorem DetectionStore.AgreeBeyond.resolveIn {s s' : DetectionStore} (h : old.AgreeBeyond s s') :
    old.AgreeBeyond (s.resolveIn o c) (s'.resolveIn o c) := by
  have hnames : (s.names.filter fun n => !old.contains n) = s'.names.filter fun n => !old.contains n := by
    refine eq_of_sorted_of_mem_iff (s.names_sorted.filter _) (s'.names_sorted.filter _) fun n => ?_
    simp only [List.mem_filter, mem_names_iff, Bool.not_eq_true']
    exact and_congr_left fun hn => by rw [h.contains_eq hn]
  have hsame : old.AgreeBeyond s s := .refl s
  have hleft := hsame.foldl_filter ho hnamed hclosed hnone s.names
  have hright := h.symm.foldl_filter ho hnamed hclosed hnone s'.names
  rw [hnames] at hleft
  exact hleft.trans hright.symm

end Search

end SiteTech
