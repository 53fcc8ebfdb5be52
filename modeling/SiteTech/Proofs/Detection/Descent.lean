import SiteTech.Proofs.Detection.Exclusion
import Mathlib.Data.List.Nodup

namespace SiteTech

/-- The calls that a search makes, one after the other. Each goes on with what a technology of the catalog implies,
from a state in which the name of the technology is marked, and makes the calls `below` itself; `next` are the calls
after it. -/
inductive Calls where
  | none
  | call (name : String) (entry : Closure) (below next : Calls)

namespace Calls

/-- The names that are gone on with, in order. -/
def names : Calls → List String
  | .none => []
  | .call name _ below next => name :: (below.names ++ next.names)

/-- How deep the calls are nested. -/
def depth : Calls → Nat
  | .none => 0
  | .call _ _ below next => max (below.depth + 1) next.depth

/-- Every call has a smaller measure at its entry than the call that makes it. -/
def Decrease (measure : Closure → Nat) : Calls → Closure → Prop
  | .none, _ => True
  | .call _ entry below next, caller =>
    measure entry < measure caller ∧ below.Decrease measure entry ∧ next.Decrease measure caller

end Calls

/-- A state after a technology was added for a signature. -/
def Closure.bring (s : Closure) (p : Pattern) (t : Technology) : Closure :=
  { s with store := s.store.add ⟨t, p.template, p.confidence⟩ }

/-- A state with one more name marked. -/
def Closure.mark (s : Closure) (name : String) : Closure := { s with resolving := name :: s.resolving }

/-- Going through signatures from a state makes some calls and ends in another state. There is no bound on the depth
of the calls. -/
inductive Searches (o : Traversal) (c : Catalog) : List Pattern → Closure → Calls → Closure → Prop
  | nil {s} : Searches o c [] s .none s
  | skip {p ps s calls last} (hskip : c.get? p.literal = none ∨ s.store.contains p.literal = true)
      (rest : Searches o c ps s calls last) : Searches o c (p :: ps) s calls last
  | add {p ps s t calls last} (hget : c.get? p.literal = some t) (hnew : s.store.contains p.literal = false)
      (hmarked : p.literal ∈ s.resolving) (rest : Searches o c ps (s.bring p t) calls last) :
      Searches o c (p :: ps) s calls last
  | call {p ps s t below mid next last} (hget : c.get? p.literal = some t)
      (hnew : s.store.contains p.literal = false) (hunmarked : p.literal ∉ s.resolving)
      (inner : Searches o c (o.implies t) ((s.bring p t).mark p.literal) below mid)
      (rest : Searches o c ps mid next last) :
      Searches o c (p :: ps) s (.call p.literal ((s.bring p t).mark p.literal) below next) last

variable {o : Traversal} {c : Catalog} {ps : List Pattern} {s last : Closure} {calls : Calls}

section Bounded

variable {fuel : Nat} {p : Pattern} {t : Technology}

theorem addImplied_skip (hskip : c.get? p.literal = none ∨ s.store.contains p.literal = true) :
    addImplied o c (fuel + 1) (p :: ps) s = addImplied o c (fuel + 1) ps s := by
  rcases hskip with hnone | hthere
  · simp only [addImplied, List.foldl_cons, hnone]
  · cases hget : c.get? p.literal <;> simp only [addImplied, List.foldl_cons, hget, hthere, if_true]

theorem addImplied_add (hget : c.get? p.literal = some t) (hnew : s.store.contains p.literal = false)
    (hmarked : p.literal ∈ s.resolving) :
    addImplied o c (fuel + 1) (p :: ps) s = addImplied o c (fuel + 1) ps (s.bring p t) := by
  have hcontains : s.resolving.contains p.literal = true := List.contains_iff_mem.2 hmarked
  simp only [addImplied, List.foldl_cons, hget, hnew, hcontains, Bool.false_eq_true, if_false, if_true,
    Closure.bring]

theorem addImplied_call (hget : c.get? p.literal = some t) (hnew : s.store.contains p.literal = false)
    (hunmarked : p.literal ∉ s.resolving) :
    addImplied o c (fuel + 1) (p :: ps) s = addImplied o c (fuel + 1) ps
      (addImplied o c fuel (o.implies t) ((s.bring p t).mark p.literal)) := by
  have hcontains : s.resolving.contains p.literal = false := by simpa using hunmarked
  rw [addImplied, addImplied, List.foldl_cons]
  simp only [hget, hnew, hcontains, Bool.false_eq_true, if_false, Closure.bring, Closure.mark]

end Bounded

namespace Searches

/-- Any bound above the depth of the calls gives the state in which the search ends. -/
theorem addImplied_eq (h : Searches o c ps s calls last) {fuel : Nat} (hfuel : calls.depth ≤ fuel) :
    addImplied o c (fuel + 1) ps s = last := by
  induction h generalizing fuel with
  | nil => rfl
  | skip hskip _ ih => rw [addImplied_skip hskip, ih hfuel]
  | add hget hnew hmarked _ ih => rw [addImplied_add hget hnew hmarked, ih hfuel]
  | call hget hnew hunmarked _ _ ihbelow ihnext =>
    rw [Calls.depth, Nat.max_le] at hfuel
    obtain ⟨fuel, rfl⟩ := Nat.exists_eq_succ_of_ne_zero (Nat.ne_zero_of_lt hfuel.1)
    rw [addImplied_call hget hnew hunmarked, ihbelow (Nat.le_of_succ_le_succ hfuel.1), ihnext hfuel.2]

/-- The names that are gone on with are those that are marked. -/
theorem resolving_eq (h : Searches o c ps s calls last) :
    last.resolving = calls.names.reverse ++ s.resolving := by
  induction h with
  | nil => rfl
  | skip _ _ ih => exact ih
  | add _ _ _ _ ih => exact ih
  | call _ _ _ _ _ ihbelow ihnext => rw [ihnext, ihbelow]; simp [Calls.names, Closure.mark, Closure.bring]

theorem resolving_subset (h : Searches o c ps s calls last) : s.resolving ⊆ last.resolving := by
  rw [h.resolving_eq]
  exact List.subset_append_right _ _

/-- No name is marked twice. -/
theorem nodup_resolving (h : Searches o c ps s calls last) (hnodup : s.resolving.Nodup) : last.resolving.Nodup := by
  induction h with
  | nil => exact hnodup
  | skip _ _ ih => exact ih hnodup
  | add _ _ _ _ ih => exact ih hnodup
  | call _ _ hunmarked _ _ ihbelow ihnext => exact ihnext (ihbelow (List.nodup_cons.2 ⟨hunmarked, hnodup⟩))

theorem isSome_get?_of_mem_names (h : Searches o c ps s calls last) {n : String} (hn : n ∈ calls.names) :
    (c.get? n).isSome = true := by
  induction h with
  | nil => cases hn
  | skip _ _ ih => exact ih hn
  | add _ _ _ _ ih => exact ih hn
  | call hget _ _ _ _ ihbelow ihnext =>
    rcases List.mem_cons.1 hn with rfl | hn
    · rw [hget]
      rfl
    · exact (List.mem_append.1 hn).elim ihbelow ihnext

/-- A call leaves fewer technologies without a mark. -/
theorem unresolved_mark_lt {p : Pattern} {t : Technology} (hget : c.get? p.literal = some t)
    (hunmarked : p.literal ∉ s.resolving) :
    c.unresolved ((s.bring p t).mark p.literal).resolving < c.unresolved s.resolving :=
  c.unresolved_cons_lt (by rw [hget]; rfl) hunmarked

/-- Every call has fewer technologies without a mark before it than the call that makes it. -/
theorem decrease (h : Searches o c ps s calls last) {caller : Closure} (hcaller : caller.resolving ⊆ s.resolving) :
    calls.Decrease (fun s => c.unresolved s.resolving) caller := by
  induction h generalizing caller with
  | nil => trivial
  | skip _ _ ih => exact ih hcaller
  | add _ _ _ _ ih => exact ih hcaller
  | call hget _ hunmarked inner _ ihbelow ihnext =>
    have hless := unresolved_mark_lt hget hunmarked
    refine ⟨Nat.lt_of_lt_of_le hless (c.unresolved_le_of_subset hcaller), ihbelow (List.Subset.refl _), ihnext ?_⟩
    exact List.Subset.trans hcaller (List.Subset.trans (List.subset_cons_self _ _) inner.resolving_subset)

/-- The calls are not nested deeper than there are technologies without a mark. -/
theorem depth_le (h : Searches o c ps s calls last) : calls.depth ≤ c.unresolved s.resolving := by
  induction h with
  | nil => exact Nat.zero_le _
  | skip _ _ ih => exact ih
  | add _ _ _ _ ih => exact ih
  | call hget _ hunmarked inner _ ihbelow ihnext =>
    have hless := unresolved_mark_lt hget hunmarked
    refine Nat.max_le.2 ⟨Nat.lt_of_le_of_lt ihbelow hless, ihnext.trans (c.unresolved_le_of_subset ?_)⟩
    exact List.Subset.trans (List.subset_cons_self _ _) inner.resolving_subset

end Searches

/-- The search ends, on every catalog and from every state: a call marks a name of the catalog that has
no mark yet, so that fewer are left with every call. -/
theorem exists_searches (o : Traversal) (c : Catalog) (ps : List Pattern) (s : Closure) :
    ∃ calls last, Searches o c ps s calls last := by
  -- The calls decrease the technologies without a mark, and among the signatures of one call their list decreases.
  induction hn : c.unresolved s.resolving using Nat.strong_induction_on generalizing ps s with
  | _ n ih =>
    have hall (ps : List Pattern) (s : Closure) (hs : c.unresolved s.resolving ≤ n) :
        ∃ calls last, Searches o c ps s calls last := by
      induction ps generalizing s with
      | nil => exact ⟨.none, s, .nil⟩
      | cons p ps ihps =>
        cases hget : c.get? p.literal with
        | none =>
          obtain ⟨calls, last, hrest⟩ := ihps s hs
          exact ⟨calls, last, .skip (.inl hget) hrest⟩
        | some t =>
          cases hnew : s.store.contains p.literal with
          | true =>
            obtain ⟨calls, last, hrest⟩ := ihps s hs
            exact ⟨calls, last, .skip (.inr hnew) hrest⟩
          | false =>
            by_cases hmarked : p.literal ∈ s.resolving
            · obtain ⟨calls, last, hrest⟩ := ihps (s.bring p t) hs
              exact ⟨calls, last, .add hget hnew hmarked hrest⟩
            · have hless := Nat.lt_of_lt_of_le (Searches.unresolved_mark_lt hget hmarked) hs
              obtain ⟨below, mid, hinner⟩ := ih _ hless (o.implies t) ((s.bring p t).mark p.literal) rfl
              have hmid : c.unresolved mid.resolving ≤ n :=
                (c.unresolved_le_of_subset hinner.resolving_subset).trans hless.le
              obtain ⟨next, last, hrest⟩ := ihps mid hmid
              exact ⟨_, last, .call hget hnew hmarked hinner hrest⟩
    exact hall ps s (Nat.le_of_eq hn)

/-- When the turn of a technology comes, the search through what it implies ends, on every catalog, also on one whose
technologies stand under other names than their own. Every call leaves fewer technologies without a mark than there
were before the call that makes it. So no name of the catalog is gone on with twice, the calls, the first one
included, are not nested deeper than there are technologies, and every bound above this depth gives the same result. -/
theorem implications_are_followed_once {o : Traversal} {c : Catalog} {store : DetectionStore} {name : String}
    {t : Technology} (hthere : store.contains name = true) (hget : c.get? name = some t) :
    let first : Closure := ⟨dropExcluded o t store, [name]⟩
    (∃ calls last, Searches o c (o.implies t) first calls last) ∧
      ∀ calls last, Searches o c (o.implies t) first calls last →
        calls.Decrease (fun s => c.unresolved s.resolving) first ∧
        (name :: calls.names).Nodup ∧ (∀ n ∈ calls.names, (c.get? n).isSome = true) ∧
        calls.depth + 1 ≤ c.size ∧
        (∀ bound, calls.depth + 1 ≤ bound → addImplied o c bound (o.implies t) first = last) ∧
        resolveOne o c store name = last.store := by
  intro first
  refine ⟨exists_searches o c (o.implies t) first, fun calls last h => ?_⟩
  have hnodup : (calls.names.reverse ++ [name]).Nodup := by
    rw [← h.resolving_eq]
    exact h.nodup_resolving (List.nodup_singleton name)
  have hless : c.unresolved [name] < c.unresolved [] :=
    c.unresolved_cons_lt (by rw [hget]; rfl) List.not_mem_nil
  have hdepth : calls.depth + 1 ≤ c.size := (Nat.lt_of_le_of_lt h.depth_le hless).trans_le (c.unresolved_le_size [])
  refine ⟨h.decrease (List.Subset.refl _), ?_, fun n => h.isSome_get?_of_mem_names, hdepth, fun bound hbound => ?_, ?_⟩
  · rwa [← List.nodup_reverse, List.reverse_cons]
  · obtain ⟨fuel, rfl⟩ := Nat.exists_eq_succ_of_ne_zero (Nat.ne_zero_of_lt hbound)
    exact h.addImplied_eq (Nat.le_of_succ_le_succ hbound)
  · have hresult : addImplied o c (c.size + 1) (o.implies t) first = last := h.addImplied_eq (Nat.le_of_succ_le hdepth)
    rw [resolveOne, if_pos hthere]
    simp only [hget]
    exact congrArg Closure.store hresult

/-- The catalog with an editor, with every technology under the name of a newer one. -/
def renamedCatalog : Catalog :=
  { editorCatalog with technologies := editorCatalog.technologies.mapValues fun t => { t with name := "New " ++ t.name } }

/-- The editor and its theme imply each other, the editor drops itself, and neither is ever found under its name. Still
no name is gone on with twice, and the calls are nested no deeper than there are technologies, four. -/
theorem renamed_editor_is_followed_once :
    ∃ t calls last, renamedCatalog.get? "Editor" = some t ∧
      Searches Traversal.byName renamedCatalog (PatternTable.all t.channels.implies)
        ⟨dropExcluded Traversal.byName t editorStore, ["Editor"]⟩ calls last ∧
      ("Editor" :: calls.names).Nodup ∧ calls.depth + 1 ≤ 4 ∧
      resolveOne Traversal.byName renamedCatalog editorStore "Editor" = last.store := by
  have hthere : editorStore.contains "Editor" = true := rfl
  obtain ⟨t, hget⟩ : ∃ t, renamedCatalog.get? "Editor" = some t := ⟨_, rfl⟩
  obtain ⟨⟨calls, last, h⟩, hall⟩ := implications_are_followed_once (o := Traversal.byName) hthere hget
  obtain ⟨-, hnodup, -, hdepth, -, hresult⟩ := hall calls last h
  exact ⟨t, calls, last, hget, h, hnodup, hdepth, hresult⟩

end SiteTech
