import SiteTech.Proofs.Detection.Exclusion

namespace SiteTech

/-- A technology of the catalog comes to its turn when a store has become another one, and is still
there. -/
structure DetectionStore.TakesTurn (o : Traversal) (c : Catalog) (first : DetectionStore) (m : String)
    (s : DetectionStore) : Prop where
  inCatalog : (c.get? m).isSome = true
  there : s.contains m = true
  reached : ∃ done rest, first.names = done ++ m :: rest ∧ s = done.foldl (resolveOne o c) first

/-- A technology brings another one along at its turn: a chain of implications leads there, over
technologies that are not there when the first one has dropped what it excludes. -/
def DetectionStore.BringsAlong (o : Traversal) (c : Catalog) (first : DetectionStore) (m n : String) :
    Prop :=
  ∃ s, first.TakesTurn o c m s ∧ Relation.TransGen (c.ImpliesOutside (c.spared s.nameSet m)) m n

variable {o : Traversal} {c : Catalog} {first s : DetectionStore} {m n : String}

/-- What a technology leaves at its turn is what it spares and what it brings along. -/
theorem mem_nameSet_of_takesTurn (ho : o.Complete) (hnamed : c.Named) (hturn : first.TakesTurn o c m s)
    (hn : n ∈ (resolveOne o c s m).nameSet) :
    n ∈ c.spared s.nameSet m ∨ first.BringsAlong o c m n := by
  have hthere : m ∈ s.nameSet := s.mem_nameSet_iff.2 hturn.there
  rw [nameSet_resolveOne ho hnamed, Catalog.settle, if_pos ⟨hthere, hturn.inCatalog⟩] at hn
  rcases hn with hn | hpath
  · exact .inl hn
  · exact .inr ⟨s, hturn, hpath⟩

private theorem reached_next {done rest : List String} (hnames : first.names = done ++ m :: rest)
    (hs : s = done.foldl (resolveOne o c) first) :
    first.names = (done ++ [m]) ++ rest ∧
      resolveOne o c s m = (done ++ [m]).foldl (resolveOne o c) first := by
  constructor
  · rw [hnames, List.append_assoc, List.singleton_append]
  · rw [List.foldl_append, ← hs, List.foldl_cons, List.foldl_nil]

/-- What is there after some turns, and was not before, has been brought along at one of them. -/
theorem exists_bringsAlong (ho : o.Complete) (hnamed : c.Named) {done rest : List String}
    (hnames : first.names = done ++ rest) (hs : s = done.foldl (resolveOne o c) first)
    (hnew : n ∉ s.nameSet) (hn : n ∈ (rest.foldl (resolveOne o c) s).nameSet) :
    ∃ m ∈ rest, first.BringsAlong o c m n := by
  -- The first turn that leaves the technology there is the one that brings it along.
  induction rest generalizing done s with
  | nil => exact absurd hn hnew
  | cons m rest ih =>
    by_cases hmid : n ∈ (resolveOne o c s m).nameSet
    · by_cases hm : m ∈ s.nameSet ∧ (c.get? m).isSome = true
      · have hturn : first.TakesTurn o c m s := ⟨hm.2, s.mem_nameSet_iff.1 hm.1, done, rest, hnames, hs⟩
        rcases mem_nameSet_of_takesTurn ho hnamed hturn hmid with hspared | hbrings
        · exact absurd hspared.1 hnew
        · exact ⟨m, List.mem_cons_self, hbrings⟩
      · rw [nameSet_resolveOne ho hnamed, Catalog.settle, if_neg hm] at hmid
        exact absurd hmid hnew
    · obtain ⟨hnames', hs'⟩ := reached_next hnames hs
      obtain ⟨k, hk, hbrings⟩ := ih hnames' hs' hmid hn
      exact ⟨k, List.mem_cons_of_mem _ hk, hbrings⟩

/-- A technology of the catalog that is left without having taken a turn has been brought along. -/
theorem exists_bringsAlong_of_no_turn (ho : o.Complete) (hnamed : c.Named)
    (hcat : (c.get? n).isSome = true) (hn : n ∈ (first.resolveIn o c).nameSet)
    (hturn : ∀ s, ¬first.TakesTurn o c n s) : ∃ m, first.BringsAlong o c m n := by
  rw [DetectionStore.resolveIn] at hn
  by_cases hfirst : n ∈ first.names
  · obtain ⟨done, rest, hnames⟩ := List.append_of_mem hfirst
    have hnew : n ∉ (done.foldl (resolveOne o c) first).nameSet := fun hthere =>
      hturn _ ⟨hcat, (DetectionStore.mem_nameSet_iff _).1 hthere, done, rest, hnames, rfl⟩
    rw [hnames, List.foldl_append] at hn
    obtain ⟨m, -, hbrings⟩ := exists_bringsAlong ho hnamed hnames rfl hnew hn
    exact ⟨m, hbrings⟩
  · have hstart : first.names = [] ++ first.names := rfl
    obtain ⟨m, -, hbrings⟩ := exists_bringsAlong (s := first) ho hnamed hstart rfl hfirst hn
    exact ⟨m, hbrings⟩

/-- A technology that is excluded at the turn of another one and is left has been brought along at that
turn or a later one. -/
theorem exists_bringsAlong_of_excludes (ho : o.Complete) (hnamed : c.Named)
    (hturn : first.TakesTurn o c m s) (hexcludes : c.Excludes m n)
    (hn : n ∈ (first.resolveIn o c).nameSet) : ∃ k, (m = k ∨ m < k) ∧ first.BringsAlong o c k n := by
  obtain ⟨done, rest, hnames, hs⟩ := hturn.reached
  by_cases hafter : n ∈ (resolveOne o c s m).nameSet
  · rcases mem_nameSet_of_takesTurn ho hnamed hturn hafter with hspared | hbrings
    · exact absurd hexcludes hspared.2
    · exact ⟨m, .inl rfl, hbrings⟩
  · obtain ⟨hnames', hs'⟩ := reached_next hnames hs
    rw [DetectionStore.resolveIn, hnames', List.foldl_append, ← hs'] at hn
    obtain ⟨k, hk, hbrings⟩ := exists_bringsAlong ho hnamed hnames' hs' hafter hn
    have hsorted := first.names_sorted
    rw [hnames] at hsorted
    have hlater : m < k := List.rel_of_pairwise_cons (List.pairwise_append.1 hsorted).2.1 hk
    exact ⟨k, .inr hlater, hbrings⟩

/-- If two technologies are left of which one excludes the other, an implication has brought one of them
along: the one that excludes, which then never came to a turn of its own, or the other one, at the turn of
the first or of one that comes after it. -/
theorem conflict_is_brought_along {library : RuleLibrary} {order : List (String × CategoryRule)} {c : Catalog}
    (hload : Catalog.ofLibraryIn order library = .ok c) {o : Traversal} (ho : o.Complete)
    (s : DetectionStore) {x y : String} (hexcludes : c.Excludes x y) (hx : (s.resolveIn o c).contains x = true)
    (hy : (s.resolveIn o c).contains y = true) :
    ((∀ s', ¬s.TakesTurn o c x s') ∧ ∃ m, s.BringsAlong o c m x) ∨
      ∃ m, (x = m ∨ x < m) ∧ s.BringsAlong o c m y := by
  have hnamed := Catalog.named_of_ofLibraryIn hload
  rw [← DetectionStore.mem_nameSet_iff] at hx hy
  by_cases hturn : ∃ s', s.TakesTurn o c x s'
  · obtain ⟨s', hturn⟩ := hturn
    exact .inr (exists_bringsAlong_of_excludes ho hnamed hturn hexcludes hy)
  · rw [not_exists] at hturn
    obtain ⟨t, ht, -⟩ := hexcludes
    exact .inl ⟨hturn, exists_bringsAlong_of_no_turn ho hnamed (by simp [ht]) hx hturn⟩

/-- A library in which one server excludes another one, and two panels each imply one of them. -/
def serverLibrary : RuleLibrary :=
  { categories := Table.ofList [("1", ⟨"Web servers", 0⟩)]
    technologies := Table.ofList
      [("Apache", TechRule.bare),
       ("Nginx", { TechRule.bare with
          channels := { TechRule.bare.channels with excludes := some (.single "Apache") } }),
       ("Panel", { TechRule.bare with
          channels := { TechRule.bare.channels with implies := some (.single "Nginx") } }),
       ("Plesk", { TechRule.bare with
          channels := { TechRule.bare.channels with implies := some (.single "Apache") } })] }

/-- The catalog of the library with two servers. -/
def serverCatalog : Catalog :=
  (Catalog.ofLibrary serverLibrary).toOption.getD ⟨Table.empty, Table.empty⟩

/-- A store with two technologies of the catalog with two servers. -/
def serverStore (m n : String) : DetectionStore :=
  [m, n].foldl (fun s name => (serverCatalog.get? name).elim s fun t => s.add ⟨t, "", 100⟩)
    DetectionStore.empty

private theorem excludes_nginx_apache : serverCatalog.Excludes "Nginx" "Apache" :=
  ⟨_, rfl, _, List.mem_cons_self, rfl⟩

/-- One server excludes the other, and both are left: the one that is dropped comes back over a panel, and
the one that a panel brings along drops nothing. -/
theorem conflicting_servers_remain :
    Catalog.ofLibrary serverLibrary = .ok serverCatalog ∧ serverCatalog.Excludes "Nginx" "Apache" ∧
      ((serverStore "Nginx" "Plesk").resolve serverCatalog).names = ["Apache", "Nginx", "Plesk"] ∧
      ((serverStore "Apache" "Panel").resolve serverCatalog).names = ["Apache", "Nginx", "Panel"] := by
  refine ⟨rfl, excludes_nginx_apache, ?_, ?_⟩
  · decide
  · decide

theorem plesk_brings_apache_back :
    ∃ m, ("Nginx" = m ∨ "Nginx" < m) ∧
      (serverStore "Nginx" "Plesk").BringsAlong Traversal.byName serverCatalog m "Apache" := by
  have hturn : (serverStore "Nginx" "Plesk").TakesTurn Traversal.byName serverCatalog "Nginx"
      (serverStore "Nginx" "Plesk") :=
    ⟨by decide, by decide, [], ["Plesk"], by decide, rfl⟩
  have hload : Catalog.ofLibrary serverLibrary = .ok serverCatalog := rfl
  refine (conflict_is_brought_along hload Traversal.complete_byName (serverStore "Nginx" "Plesk")
    excludes_nginx_apache ?_ ?_).resolve_left fun h => h.1 _ hturn
  · decide
  · decide

end SiteTech
