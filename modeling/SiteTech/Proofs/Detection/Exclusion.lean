import SiteTech.Proofs.Detection.Implication
import Mathlib.Data.Set.Basic

namespace SiteTech

/-- The names of the technologies found, without their order. -/
def DetectionStore.nameSet (s : DetectionStore) : Set String := {n | n ∈ s.names}

/-- One technology of the catalog excludes a name. -/
def Catalog.Excludes (c : Catalog) (m n : String) : Prop :=
  ∃ t, c.get? m = some t ∧ ∃ p ∈ PatternTable.all t.channels.excludes, p.literal = n

/-- What is left of a set of names when one of them has dropped what it excludes. -/
def Catalog.spared (c : Catalog) (names : Set String) (m : String) : Set String :=
  {n | n ∈ names ∧ ¬c.Excludes m n}

/-- One technology implies another one of the catalog that is not among some names. -/
def Catalog.ImpliesOutside (c : Catalog) (names : Set String) (m n : String) : Prop :=
  c.Implies m n ∧ n ∉ names

open Classical in
/-- What becomes of a set of names when one name is dealt with. A name that is not there any more, or
not in the catalog, changes nothing. -/
noncomputable def Catalog.settle (c : Catalog) (names : Set String) (m : String) : Set String :=
  if m ∈ names ∧ (c.get? m).isSome = true then
    c.spared names m ∪ {n | Relation.TransGen (c.ImpliesOutside (c.spared names m)) m n}
  else names

/-- No technology drops a name while names are dealt with one after the other. -/
def Catalog.Spares (c : Catalog) (n : String) : List String → Set String → Prop
  | [], _ => True
  | m :: rest, names => ¬(m ∈ names ∧ c.Excludes m n) ∧ c.Spares n rest (c.settle names m)

namespace DetectionStore

theorem mem_nameSet_iff (s : DetectionStore) {n : String} :
    n ∈ s.nameSet ↔ s.contains n = true := s.mem_names_iff

theorem names_sorted (s : DetectionStore) : s.names.Pairwise (· < ·) := by
  refine List.pairwise_map.2 (s.table.ordered.imp fun h => ?_)
  exact compareOfLessAndEq_eq_lt.1 h

theorem get?_remove (s : DetectionStore) (k n : String) :
    (s.remove k).get? n = if k = n then none else s.get? n := by
  simp only [remove, get?, Table.get?_erase, Std.compare_eq_iff_eq, @eq_comm _ n k]

theorem get?_foldl_remove (s : DetectionStore) (patterns : List Pattern) (n : String) :
    (patterns.foldl (fun s p => s.remove p.literal) s).get? n =
      if ∃ p ∈ patterns, p.literal = n then none else s.get? n := by
  induction patterns generalizing s with
  | nil => simp
  | cons p rest ih =>
    rw [List.foldl_cons, ih, get?_remove]
    by_cases hrest : ∃ q ∈ rest, q.literal = n <;> simp [hrest]

end DetectionStore

variable {o : Traversal} {c : Catalog} {m : String} {t : Technology}

/-- Dropping what a technology excludes forgets exactly the excluded names. -/
theorem get?_dropExcluded (ho : o.Complete) (ht : c.get? m = some t) (s : DetectionStore) (n : String)
    [Decidable (c.Excludes m n)] :
    (dropExcluded o t s).get? n = if c.Excludes m n then none else s.get? n := by
  have hexcludes : (∃ p ∈ o.excludes t, p.literal = n) ↔ c.Excludes m n := by
    simp only [Catalog.Excludes, ht, Option.some.injEq, exists_eq_left', (ho.excludes t).mem_iff]
  rw [dropExcluded, DetectionStore.get?_foldl_remove]
  simp only [hexcludes]

theorem nameSet_dropExcluded (ho : o.Complete) (ht : c.get? m = some t) (s : DetectionStore) :
    (dropExcluded o t s).nameSet = c.spared s.nameSet m := by
  classical
  ext n
  simp only [DetectionStore.mem_nameSet_iff, DetectionStore.contains_iff, get?_dropExcluded ho ht,
    Catalog.spared, Set.mem_ofPred_eq]
  by_cases hexcluded : c.Excludes m n <;> simp [hexcluded]

/-- A search from a technology finds what chains of new technologies lead to. -/
theorem Explored.contains_iff {s s' : Closure} (ho : o.Complete) (ht : c.get? m = some t)
    (hmark : s.resolving = [m]) (h : Explored o c (o.implies t) s s') (n : String) :
    s'.store.contains n = true ↔
      s.store.contains n = true ∨ Relation.TransGen (c.ImpliesNew s.store) m n := by
  have himplies {p : Pattern} : p ∈ o.implies t ↔ p ∈ PatternTable.all t.channels.implies :=
    (ho.implies t).mem_iff
  constructor
  · intro hn
    cases hnew : s.store.contains n with
    | true => exact .inl rfl
    | false =>
      obtain ⟨p, hp, hcat, hpnew, hpath⟩ := h.led n hn hnew
      have hfirst : c.ImpliesNew s.store m p.literal := ⟨⟨t, ht, ⟨p, himplies.1 hp, rfl⟩, hcat⟩, hpnew⟩
      exact .inr (.head' hfirst hpath)
  · rintro (hn | hpath)
    · exact h.contains_mono hn
    · induction hpath with
      | single hedge =>
        obtain ⟨⟨u, hu, ⟨p, hp, rfl⟩, hcat⟩, -⟩ := hedge
        cases ht.symm.trans hu
        exact h.met p (himplies.2 hp) hcat
      | @tail k _ hbefore hedge ih =>
        obtain ⟨⟨u, hu, ⟨p, hp, rfl⟩, hcat⟩, -⟩ := hedge
        -- A chain may come back to the start, which is marked. The search goes through all that the
        -- start implies anyway, so that the mark prunes nothing.
        by_cases hk : k = m
        · subst hk
          cases ht.symm.trans hu
          exact h.met p (himplies.2 hp) hcat
        · have hknew : s.store.contains k = false := by
            cases hbefore with
            | single hlast => exact hlast.2
            | tail _ hlast => exact hlast.2
          exact h.closed k u ih hknew (by simpa [hmark] using hk) hu p ((ho.implies u).mem_iff.2 hp) hcat

theorem impliesNew_eq (c : Catalog) (s : DetectionStore) :
    c.ImpliesNew s = c.ImpliesOutside s.nameSet := by
  funext m n
  rw [Catalog.ImpliesNew, Catalog.ImpliesOutside, s.mem_nameSet_iff, Bool.not_eq_true]

/-- Dealing with one technology settles the names. -/
theorem nameSet_resolveOne (ho : o.Complete) (hnamed : c.Named) (s : DetectionStore) (m : String) :
    (resolveOne o c s m).nameSet = c.settle s.nameSet m := by
  unfold Catalog.settle
  by_cases hm : m ∈ s.nameSet
  · have hcontains := s.mem_nameSet_iff.1 hm
    cases ht : c.get? m with
    | none => simp [resolveOne, hcontains, ht]
    | some t =>
      obtain ⟨resolving, hx⟩ := explored_resolveOne ho hnamed hcontains ht
      rw [if_pos ⟨hm, by simp⟩, ← nameSet_dropExcluded ho ht, ← impliesNew_eq]
      ext n
      simp only [Set.mem_union, Set.mem_ofPred_eq, DetectionStore.mem_nameSet_iff]
      exact hx.contains_iff ho ht rfl n
  · have habsent : s.contains m = false := by
      rw [← Bool.not_eq_true, ← s.mem_nameSet_iff]
      exact hm
    simp [resolveOne, habsent, hm]

/-- Dealing with one technology leaves what is known under a name that it does not exclude. -/
theorem get?_resolveOne (ho : o.Complete) (hnamed : c.Named) {s : DetectionStore} {n : String}
    {d : Detection} (hspared : ¬(m ∈ s.nameSet ∧ c.Excludes m n)) (hd : s.get? n = some d) :
    (resolveOne o c s m).get? n = some d := by
  classical
  cases hm : s.contains m with
  | false => simpa [resolveOne, hm] using hd
  | true =>
    cases ht : c.get? m with
    | none => simpa [resolveOne, hm, ht] using hd
    | some t =>
      obtain ⟨resolving, hx⟩ := explored_resolveOne ho hnamed hm ht
      have hkeeps : ¬c.Excludes m n := fun h => hspared ⟨s.mem_nameSet_iff.2 hm, h⟩
      refine hx.kept n d ?_
      rw [get?_dropExcluded ho ht, if_neg hkeeps]
      exact hd

theorem nameSet_foldl_resolveOne (ho : o.Complete) (hnamed : c.Named) (s : DetectionStore)
    (names : List String) :
    (names.foldl (resolveOne o c) s).nameSet = names.foldl c.settle s.nameSet :=
  (List.foldl_hom DetectionStore.nameSet fun s m => (nameSet_resolveOne ho hnamed s m).symm).symm

theorem get?_foldl_resolveOne (ho : o.Complete) (hnamed : c.Named) {s : DetectionStore} {n : String}
    {d : Detection} {names : List String} (hspares : c.Spares n names s.nameSet)
    (hd : s.get? n = some d) : (names.foldl (resolveOne o c) s).get? n = some d := by
  induction names generalizing s with
  | nil => exact hd
  | cons m rest ih =>
    obtain ⟨hspared, hrest⟩ := hspares
    rw [← nameSet_resolveOne ho hnamed] at hrest
    exact ih hrest (get?_resolveOne ho hnamed hspared hd)

/-- A search never asks what a technology excludes. -/
theorem addImplied_with_excludes (o : Traversal) (c : Catalog) (excludes : Technology → List Pattern)
    (fuel : Nat) (patterns : List Pattern) (s : Closure) :
    addImplied { o with excludes := excludes } c fuel patterns s = addImplied o c fuel patterns s := by
  induction fuel generalizing patterns s with
  | zero => rfl
  | succ fuel ih => simp only [addImplied, ih]

/-- Only the technologies that a store has at the start drop others. -/
theorem resolveIn_with_excludes (hnamed : c.Named) (s : DetectionStore)
    {excludes : Technology → List Pattern}
    (hsame : ∀ t, s.contains t.name = true → excludes t = o.excludes t) :
    s.resolveIn { o with excludes := excludes } c = s.resolveIn o c := by
  refine List.foldl_ext _ _ s fun s' m hm => ?_
  have hfirst := s.mem_names_iff.1 hm
  unfold resolveOne
  split
  · cases ht : c.get? m with
    | none => rfl
    | some t =>
      have hexcludes := hsame t (by rwa [hnamed m t ht])
      simp only [addImplied_with_excludes, dropExcluded, hexcludes]
  · rfl

/-- The names that are left when a store has been dealt with are those that its names leave when they
are settled in their order, whatever the order was in which signatures were gone through. A detection
that is there at some moment and is not dropped from then on stays as it is. What technologies
exclude that the store did not have at the start plays no part. -/
theorem resolve_settles_names {library : RuleLibrary} {order : List (String × CategoryRule)} {c : Catalog}
    (hload : Catalog.ofLibraryIn order library = .ok c) {o : Traversal} (ho : o.Complete)
    (s : DetectionStore) :
    s.names.Pairwise (· < ·) ∧
    (s.resolveIn o c).nameSet = s.names.foldl c.settle s.nameSet ∧
    (∀ done rest, s.names = done ++ rest → ∀ n d, (done.foldl (resolveOne o c) s).get? n = some d →
      c.Spares n rest (done.foldl c.settle s.nameSet) → (s.resolveIn o c).get? n = some d) ∧
    ∀ excludes, (∀ t, s.contains t.name = true → excludes t = o.excludes t) →
      s.resolveIn { o with excludes := excludes } c = s.resolveIn o c := by
  have hnamed := Catalog.named_of_ofLibraryIn hload
  refine ⟨s.names_sorted, nameSet_foldl_resolveOne ho hnamed s s.names, ?_, ?_⟩
  · intro done rest hnames n d hd hspares
    rw [← nameSet_foldl_resolveOne ho hnamed] at hspares
    rw [DetectionStore.resolveIn, hnames, List.foldl_append]
    exact get?_foldl_resolveOne ho hnamed hspares hd
  · intro excludes hsame
    exact resolveIn_with_excludes hnamed s hsame

/-- A library in which a technology excludes itself and another one, and is implied by one that it
implies. -/
def editorLibrary : RuleLibrary :=
  { categories := Table.ofList [("1", ⟨"Editors", 0⟩)]
    technologies := Table.ofList
      [("Editor", { TechRule.bare with
          channels := { TechRule.bare.channels with
            excludes := some (.list ["Editor", "Legacy"])
            implies := some (.single "Theme") } }),
       ("Fonts", TechRule.bare),
       ("Legacy", { TechRule.bare with
          channels := { TechRule.bare.channels with excludes := some (.single "Fonts") } }),
       ("Theme", { TechRule.bare with
          channels := { TechRule.bare.channels with
            implies := some (.list ["Editor", "Fonts"]) } })] }

/-- The catalog of the library with an editor. -/
def editorCatalog : Catalog :=
  (Catalog.ofLibrary editorLibrary).toOption.getD ⟨Table.empty, Table.empty⟩

/-- A store in which the editor and one of the technologies that it excludes have been found. -/
def editorStore : DetectionStore :=
  ["Editor", "Legacy"].foldl (fun s name =>
    (editorCatalog.get? name).elim s fun t => s.add ⟨t, "2", 50⟩) DetectionStore.empty

/-- The editor comes back over the theme that it implies, and `Legacy` is gone before it can drop
anything. -/
theorem editor_comes_back :
    editorStore.names.foldl editorCatalog.settle editorStore.nameSet =
      {n | n ∈ ["Editor", "Fonts", "Theme"]} := by
  have hload : Catalog.ofLibrary editorLibrary = .ok editorCatalog := rfl
  have hnames : (editorStore.resolve editorCatalog).names = ["Editor", "Fonts", "Theme"] := by
    decide
  rw [← (resolve_settles_names hload Traversal.complete_byName editorStore).2.1, ← hnames]
  rfl

end SiteTech
