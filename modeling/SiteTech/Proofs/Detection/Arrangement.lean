import SiteTech.Detection.Page
import SiteTech.Proofs.Detection.Separation

namespace SiteTech

/-- Two detections of a name tell the same but for what the order of the signs decides, which is the version
that is taken where several are known. If this is settled, they tell the same version too. -/
structure Detection.Alike (n : String) (settled : Prop) (d d' : Detection) : Prop where
  name : d.technology.name = n
  name' : d'.technology.name = n
  confidence : d'.confidence = d.confidence
  version : d'.version = "" ↔ d.version = ""
  settled : settled → d'.version = d.version

/-- The signs of a name tell one version of it at most. -/
def Hit.TellOneVersion (hits : List Hit) (n : String) : Prop :=
  ∀ h ∈ hits, ∀ h' ∈ hits, h.technology.name = n → h'.technology.name = n → h.version ≠ "" →
    h'.version ≠ "" → h'.version = h.version

namespace Detection

variable {n : String} {settled : Prop} {old old' : Option Detection} {sign : String → UInt32 → Prop}
  {d d' : Detection}

private theorem Sums.confidence_le (h : Sums old sign d) (h' : Sums old' sign d')
    (hold : ∀ d₀, old = some d₀ → ∃ d₀', old' = some d₀' ∧ d₀'.confidence = d₀.confidence) :
    d.confidence ≤ d'.confidence := by
  rcases h.attained with ⟨d₀, hd₀, heq⟩ | ⟨v, hsign⟩
  · obtain ⟨d₀', hd₀', hsame⟩ := hold d₀ hd₀
    rw [← heq, ← hsame]
    exact h'.old_le d₀' hd₀'
  · exact h'.sign_le v _ hsign

private theorem Sums.version_eq_empty_iff (h : Sums old sign d) :
    d.version = "" ↔ (∀ d₀, old = some d₀ → d₀.version = "") ∧ ∀ v k, sign v k → v = "" := by
  constructor
  · intro hempty
    have hold : ∀ d₀, old = some d₀ → d₀.version = "" := fun d₀ hd₀ =>
      by_contra fun hne => hne ((h.kept d₀ hd₀ hne).symm.trans hempty)
    refine ⟨hold, fun v k hsign => by_contra fun hne => ?_⟩
    exact (h.chosen hold ⟨v, k, hsign, hne⟩).1 hempty
  · exact fun ⟨hold, hsigns⟩ => h.blank hold hsigns

/-- Where no version has been known, signs that tell one version leave this one. -/
private theorem Sums.version_eq (h : Sums old sign d) (h' : Sums old' sign d')
    (hold : ∀ d₀, old = some d₀ → d₀.version = "") (hold' : ∀ d₀, old' = some d₀ → d₀.version = "")
    (hone : ∀ v k v' k', sign v k → sign v' k' → v ≠ "" → v' ≠ "" → v' = v) : d'.version = d.version := by
  by_cases htold : ∃ v k, sign v k ∧ v ≠ ""
  · obtain ⟨hne, k, hsign⟩ := h.chosen hold htold
    obtain ⟨hne', k', hsign'⟩ := h'.chosen hold' htold
    exact hone _ _ _ _ hsign hsign' hne hne'
  · have hnone : ∀ v k, sign v k → v = "" := fun v k hsign => by_contra fun hne => htold ⟨v, k, hsign, hne⟩
    rw [h.blank hold hnone, h'.blank hold' hnone]

/-- What sums up the same signs after alike detections is alike. -/
theorem Sums.alike (h : Sums old sign d) (h' : Sums old' sign d')
    (hold : Option.Rel (Alike n settled) old old') (hname : d.technology.name = n) (hname' : d'.technology.name = n)
    (hone : settled → ∀ v k v' k', sign v k → sign v' k' → v ≠ "" → v' ≠ "" → v' = v) :
    d.Alike n settled d' where
  name := hname
  name' := hname'
  confidence := by
    cases hold with
    | none => exact UInt32.le_antisymm (h'.confidence_le h (by simp)) (h.confidence_le h' (by simp))
    | some hsame =>
      refine UInt32.le_antisymm (h'.confidence_le h ?_) (h.confidence_le h' ?_)
      · simp [hsame.confidence]
      · simp [hsame.confidence]
  version := by
    rw [h.version_eq_empty_iff, h'.version_eq_empty_iff]
    cases hold with
    | none => simp
    | some hsame => simp [hsame.version]
  settled hsettled := by
    cases hold with
    | none => exact h.version_eq h' (by simp) (by simp) (hone hsettled)
    | @some d₀ d₀' hsame =>
      have hversion : d₀'.version = d₀.version := hsame.settled hsettled
      by_cases hempty : d₀.version = ""
      · exact h.version_eq h' (by simp [hempty]) (by simp [hversion, hempty]) (hone hsettled)
      · rw [h.kept d₀ rfl hempty, h'.kept d₀' rfl (hversion ▸ hempty), hversion]

/-- The same signs of one technology lead from alike to alike, in whatever order they are recorded. -/
theorem alike_afterAll (hold : Option.Rel (Alike n settled) old old') {hits hits' : List Hit}
    (hperm : hits'.Perm hits) (hhits : ∀ h ∈ hits, h.technology.name = n)
    (hone : settled → Hit.TellOneVersion hits n) :
    Option.Rel (Alike n settled) (afterAll old hits) (afterAll old' hits') := by
  have hsome : (afterAll old hits).isSome = true ↔ (afterAll old' hits').isSome = true := by
    simp only [isSome_afterAll, hperm.mem_iff]
    cases hold <;> simp
  cases hd : afterAll old hits <;> cases hd' : afterAll old' hits'
  case none.none => exact .none
  case none.some => simp [hd, hd'] at hsome
  case some.none => simp [hd, hd'] at hsome
  case some.some d d' =>
    have hsums := (sums_of_afterAll hd).congr fun v k => exists_congr fun h =>
      and_congr_left fun _ => hperm.mem_iff.symm
    have hhits' : ∀ h ∈ hits', h.technology.name = n := fun h hh => hhits h (hperm.mem_iff.1 hh)
    have hnames : (∀ d₀, old = some d₀ → d₀.technology.name = n) ∧
        ∀ d₀, old' = some d₀ → d₀.technology.name = n := by
      cases hold with
      | none => simp
      | some hsame => simp [hsame.name, hsame.name']
    refine .some (hsums.alike (sums_of_afterAll hd') hold (name_afterAll hnames.1 hhits hd)
      (name_afterAll hnames.2 hhits' hd') fun hsettled => ?_)
    rintro _ _ _ _ ⟨h, hh, rfl, -⟩ ⟨h', hh', rfl, -⟩
    exact hone hsettled h (hperm.mem_iff.1 hh) h' (hperm.mem_iff.1 hh') (hhits' h hh) (hhits' h' hh')

end Detection

/-- Two stores know the same technologies, each by alike detections. -/
def DetectionStore.Alike (settled : String → Prop) (s s' : DetectionStore) : Prop :=
  ∀ n, Option.Rel (Detection.Alike n (settled n)) (s.get? n) (s'.get? n)

namespace DetectionStore

variable {settled : String → Prop} {s s' : DetectionStore}

theorem alike_empty : empty.Alike settled empty := fun _ => .none

theorem Alike.exists_get? (h : s.Alike settled s') {n : String} {d : Detection} (hd : s.get? n = some d) :
    ∃ d', s'.get? n = some d' ∧ d.Alike n (settled n) d' := by
  have hn := h n
  rw [hd] at hn
  generalize s'.get? n = found at hn
  obtain ⟨halike⟩ := hn
  exact ⟨_, rfl, halike⟩

theorem Alike.contains_eq (h : s.Alike settled s') (n : String) : s'.contains n = s.contains n := by
  have hn := h n
  change (s'.get? n).isSome = (s.get? n).isSome
  generalize s.get? n = old, s'.get? n = new at hn ⊢
  cases hn <;> rfl

theorem Alike.names_eq (h : s.Alike settled s') : s'.names = s.names :=
  eq_of_sorted_of_mem_iff s'.names_sorted s.names_sorted fun n => by
    rw [mem_names_iff, mem_names_iff, h.contains_eq]

/-- The same signs in whatever order leave alike stores, if they tell one version of what is settled. -/
theorem Alike.addAll (h : s.Alike settled s') {hits hits' : List Hit} (hperm : hits'.Perm hits)
    (hone : ∀ n, settled n → Hit.TellOneVersion hits n) :
    (s.addAll hits).Alike settled (s'.addAll hits') := by
  intro n
  rw [get?_addAll, get?_addAll]
  refine Detection.alike_afterAll (h n) (hperm.filter _) (fun hit hhit => ?_) fun hsettled => ?_
  · exact beq_iff_eq.1 (List.mem_filter.1 hhit).2
  · exact fun hit hhit hit' hhit' => hone n hsettled hit (List.mem_of_mem_filter hhit) hit'
      (List.mem_of_mem_filter hhit')

theorem Alike.add (h : s.Alike settled s') (hit : Hit) : (s.add hit).Alike settled (s'.add hit) := by
  refine h.addAll (.refl [hit]) fun n _ h hh h' hh' _ _ _ _ => ?_
  rw [List.mem_singleton.1 hh, List.mem_singleton.1 hh']

theorem Alike.remove (h : s.Alike settled s') (name : String) :
    (s.remove name).Alike settled (s'.remove name) := by
  intro n
  rw [get?_remove, get?_remove]
  split
  · exact .none
  · exact h n

/-- Each finding of a store has its like in an alike store. -/
theorem Alike.exists_finding (h : s.Alike settled s') {f : Finding} (hf : f ∈ s.findings) :
    ∃ f' ∈ s'.findings, f'.name = f.name ∧ f'.confidence = f.confidence ∧
      (f'.version = "" ↔ f.version = "") ∧ (settled f.name → f'.version = f.version) := by
  obtain ⟨d, hd, rfl⟩ := List.mem_map.1 hf
  obtain ⟨n, hn⟩ := (Table.mem_values_iff s.table).1 hd
  obtain ⟨d', hn', halike⟩ := h.exists_get? hn
  refine ⟨d'.finding, List.mem_map_of_mem ((Table.mem_values_iff s'.table).2 ⟨n, hn'⟩),
    halike.name'.trans halike.name.symm, halike.confidence, halike.version, fun hsettled => ?_⟩
  have hn : d.finding.name = n := halike.name
  exact halike.settled (hn ▸ hsettled)

end DetectionStore

variable {settled : String → Prop}

/-- Searches on alike stores go through the same technologies. -/
theorem alike_addImplied (o : Traversal) (c : Catalog) (fuel : Nat) (patterns : List Pattern)
    {s s' : Closure} (hstore : s.store.Alike settled s'.store) (hresolving : s'.resolving = s.resolving) :
    (addImplied o c fuel patterns s).store.Alike settled (addImplied o c fuel patterns s').store ∧
      (addImplied o c fuel patterns s').resolving = (addImplied o c fuel patterns s).resolving := by
  induction fuel generalizing patterns s s' with
  | zero => exact ⟨hstore, hresolving⟩
  | succ fuel ih =>
    unfold addImplied
    refine List.foldl_rel
      (r := fun s s' : Closure => s.store.Alike settled s'.store ∧ s'.resolving = s.resolving)
      ⟨hstore, hresolving⟩ fun p _ s s' h => ?_
    obtain ⟨hstore, hresolving⟩ := h
    cases c.get? p.literal with
    | none => exact ⟨hstore, hresolving⟩
    | some implied =>
      dsimp only
      rw [hstore.contains_eq, hresolving]
      split
      · exact ⟨hstore, hresolving⟩
      · have hadd := hstore.add ⟨implied, p.template, p.confidence⟩
        split
        · exact ⟨hadd, rfl⟩
        · exact ih (o.implies implied) hadd rfl

theorem alike_dropExcluded (o : Traversal) (t : Technology) {s s' : DetectionStore}
    (h : s.Alike settled s') : (dropExcluded o t s).Alike settled (dropExcluded o t s') :=
  List.foldl_rel h fun p _ _ _ h => h.remove p.literal

theorem alike_resolveOne (o : Traversal) (c : Catalog) {s s' : DetectionStore} (h : s.Alike settled s')
    (n : String) : (resolveOne o c s n).Alike settled (resolveOne o c s' n) := by
  unfold resolveOne
  rw [h.contains_eq]
  split
  · cases c.get? n with
    | none => exact h
    | some t =>
      have hdropped : (⟨dropExcluded o t s, [n]⟩ : Closure).store.Alike settled
          (⟨dropExcluded o t s', [n]⟩ : Closure).store := alike_dropExcluded o t h
      exact (alike_addImplied o c _ _ hdropped rfl).1
  · exact h

theorem alike_resolveIn (o : Traversal) (c : Catalog) {s s' : DetectionStore} (h : s.Alike settled s') :
    (s.resolveIn o c).Alike settled (s'.resolveIn o c) := by
  rw [DetectionStore.resolveIn, DetectionStore.resolveIn, h.names_eq]
  exact List.foldl_rel h fun n _ _ _ h => alike_resolveOne o c h n

/-- In whatever order the signs of a page are recorded, alike stores become alike ones: the same technologies
are found with the same confidences, and a version is known of the same ones. What is settled stays so if the
order does not change, or the page tells one version of it. -/
theorem Catalog.alike_detect (c : Catalog) (o : Traversal) {a a' : Arrangement} {probe : Probe} {url : String}
    {e : Evidence} {s s' : DetectionStore} (h : s.Alike settled s')
    (hone : a' = a ∨ ∀ n, settled n → Hit.TellOneVersion (c.hits probe url e) n) :
    (c.detect o a probe url e s).Alike settled (c.detect o a' probe url e s') := by
  apply alike_resolveIn
  rcases hone with rfl | hone
  · exact List.foldl_rel h fun hit _ _ _ h => h.add hit
  · exact h.addAll ((a'.perm _).trans (a.perm _).symm) fun n hsettled hit hhit hit' hhit' =>
      hone n hsettled hit ((a.perm _).mem_iff.1 hhit) hit' ((a.perm _).mem_iff.1 hhit')

/-- Of several versions the one that is recorded first is taken. -/
example :
    let t := Technology.assemble "PHP" [] TechRule.bare
    let hits : List Hit := [⟨t, "7", 100⟩, ⟨t, "8", 100⟩]
    ((DetectionStore.empty.addAll hits).findings.map Finding.version,
      (DetectionStore.empty.addAll hits.reverse).findings.map Finding.version) = (["7"], ["8"]) := by
  decide

end SiteTech
