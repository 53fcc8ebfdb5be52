import SiteTech.Detection.Store
import SiteTech.Proofs.Table
import Mathlib.Order.Bounds.Defs

namespace SiteTech

namespace Detection

/-- What is known of a technology after signs of it, in their order. -/
def afterAll (old : Option Detection) (hits : List Hit) : Option Detection :=
  hits.foldl (fun old h => some (after old h)) old

theorem isSome_afterAll (old : Option Detection) (hits : List Hit) :
    (afterAll old hits).isSome = true ↔ old.isSome = true ∨ ∃ h, h ∈ hits := by
  induction hits generalizing old with
  | nil => simp [afterAll]
  | cons h rest ih =>
    rw [afterAll, List.foldl_cons, ← afterAll, ih]
    simp only [Option.isSome_some, true_or, true_iff]
    exact .inr ⟨h, List.mem_cons_self⟩

theorem confidence_le_after {old : Option Detection} {d : Detection} (h : Hit) (hold : old = some d) :
    d.confidence ≤ (after old h).confidence := by
  subst hold
  simp only [after, merge]
  split
  · exact UInt32.le_of_lt ‹_›
  · exact UInt32.le_refl _

theorem hit_confidence_le_after (old : Option Detection) (h : Hit) :
    h.confidence ≤ (after old h).confidence := by
  cases old with
  | none => exact UInt32.le_refl _
  | some d =>
    simp only [after, merge]
    split
    · exact UInt32.le_refl _
    · exact UInt32.not_lt.1 ‹_›

theorem after_confidence (old : Option Detection) (h : Hit) :
    (after old h).confidence = h.confidence ∨
      ∃ d, old = some d ∧ d.confidence = (after old h).confidence := by
  cases old with
  | none => exact .inl rfl
  | some d =>
    simp only [after, merge]
    split
    · exact .inl rfl
    · exact .inr ⟨d, rfl, rfl⟩

theorem after_version_of_blank {old : Option Detection} (h : Hit)
    (hblank : ∀ d, old = some d → d.version = "") : (after old h).version = h.version := by
  cases old with
  | none => rfl
  | some d =>
    by_cases hv : h.version = "" <;> simp [after, merge, hblank d rfl, hv]

theorem after_version_of_some {d : Detection} (h : Hit) (hv : d.version ≠ "") :
    (after (some d) h).version = d.version := by
  simp [after, merge, hv]

/-- What is known of a technology sums up an earlier detection of it and the versions and
confidences that its signs speak for, whatever the order of the signs was: the confidence is the
greatest of all, an earlier version stays, and without one some version that is not empty is
taken, if a sign has one. -/
structure Sums (old : Option Detection) (sign : String → UInt32 → Prop) (d : Detection) : Prop where
  old_le : ∀ d₀, old = some d₀ → d₀.confidence ≤ d.confidence
  sign_le : ∀ v c, sign v c → c ≤ d.confidence
  attained : (∃ d₀, old = some d₀ ∧ d₀.confidence = d.confidence) ∨ ∃ v, sign v d.confidence
  kept : ∀ d₀, old = some d₀ → d₀.version ≠ "" → d.version = d₀.version
  blank : (∀ d₀, old = some d₀ → d₀.version = "") → (∀ v c, sign v c → v = "") → d.version = ""
  chosen : (∀ d₀, old = some d₀ → d₀.version = "") → (∃ v c, sign v c ∧ v ≠ "") →
    d.version ≠ "" ∧ ∃ c, sign d.version c

/-- Signs that say the same are summed up the same way. -/
theorem Sums.congr {old : Option Detection} {sign sign' : String → UInt32 → Prop} {d : Detection}
    (hsums : Sums old sign d) (hsign : ∀ v c, sign v c ↔ sign' v c) : Sums old sign' d := by
  have heq : sign = sign' := funext fun v => funext fun c => propext (hsign v c)
  exact heq ▸ hsums

/-- One more sign in front of others. -/
private theorem Sums.cons {old : Option Detection} {sign : String → UInt32 → Prop} {h : Hit}
    {d : Detection} (hsums : Sums (some (after old h)) sign d) :
    Sums old (fun v c => (h.version = v ∧ h.confidence = c) ∨ sign v c) d where
  old_le d₀ hold := UInt32.le_trans (confidence_le_after h hold) (hsums.old_le _ rfl)
  sign_le v c := by
    rintro (⟨-, rfl⟩ | hsign)
    · exact UInt32.le_trans (hit_confidence_le_after old h) (hsums.old_le _ rfl)
    · exact hsums.sign_le v c hsign
  attained := by
    rcases hsums.attained with ⟨d₁, hd₁, hconf⟩ | ⟨v, hsign⟩
    · cases hd₁
      rcases after_confidence old h with hhit | ⟨d₀, hold, heq⟩
      · exact .inr ⟨h.version, .inl ⟨rfl, hhit.symm.trans hconf⟩⟩
      · exact .inl ⟨d₀, hold, heq.trans hconf⟩
    · exact .inr ⟨v, .inr hsign⟩
  kept d₀ hold hv := by
    subst hold
    have hstays := after_version_of_some h hv
    rw [← hstays] at hv ⊢
    exact hsums.kept _ rfl hv
  blank hold hall := by
    have hversion := after_version_of_blank h hold
    have hempty : h.version = "" := hall _ _ (.inl ⟨rfl, rfl⟩)
    refine hsums.blank (fun d₀ hd₀ => ?_) fun v c hsign => hall v c (.inr hsign)
    cases hd₀
    exact hversion.trans hempty
  chosen hold hsome := by
    have hversion := after_version_of_blank h hold
    by_cases hempty : h.version = ""
    · obtain ⟨v, c, ⟨hv, -⟩ | hsign, hne⟩ := hsome
      · exact absurd (hv.symm.trans hempty) hne
      · obtain ⟨hd, c', hc'⟩ := hsums.chosen
          (fun d₀ hd₀ => by cases hd₀; exact hversion.trans hempty) ⟨v, c, hsign, hne⟩
        exact ⟨hd, c', .inr hc'⟩
    · have hkept := hsums.kept _ rfl (hversion ▸ hempty)
      rw [hversion] at hkept
      exact ⟨hkept ▸ hempty, h.confidence, .inl ⟨hkept.symm, rfl⟩⟩

/-- Signs that have been recorded one after the other are summed up. -/
theorem sums_of_afterAll {old : Option Detection} {hits : List Hit} {d : Detection}
    (hd : afterAll old hits = some d) :
    Sums old (fun v c => ∃ h ∈ hits, h.version = v ∧ h.confidence = c) d := by
  induction hits generalizing old with
  | nil =>
    have hold : old = some d := hd
    subst hold
    exact ⟨fun d₀ h => by cases h; exact UInt32.le_refl _, by simp, .inl ⟨d, rfl, rfl⟩,
      fun d₀ h _ => by cases h; rfl, fun h _ => h d rfl, by simp⟩
  | cons h rest ih =>
    exact (ih hd).cons.congr fun v c => by simp

theorem name_afterAll {old : Option Detection} {hits : List Hit} {d : Detection} {n : String}
    (hold : ∀ d₀, old = some d₀ → d₀.technology.name = n) (hhits : ∀ h ∈ hits, h.technology.name = n)
    (hd : afterAll old hits = some d) : d.technology.name = n := by
  induction hits generalizing old with
  | nil => exact hold d hd
  | cons h rest ih =>
    refine ih (fun d₀ hd₀ => ?_) (fun h' hh' => hhits h' (List.mem_cons_of_mem _ hh')) hd
    cases hd₀
    cases old with
    | none => exact hhits h List.mem_cons_self
    | some d₁ => exact hold d₁ rfl

/-- The confidence that sums up signs is the greatest that was known or that one of them speaks for. -/
theorem Sums.isGreatest {old : Option Detection} {sign : String → UInt32 → Prop} {d : Detection}
    (h : Sums old sign d) :
    IsGreatest {k | (∃ d₀, old = some d₀ ∧ d₀.confidence = k) ∨ ∃ v, sign v k} d.confidence := by
  refine ⟨h.attained, ?_⟩
  rintro k (⟨d₀, hold, rfl⟩ | ⟨v, hsign⟩)
  · exact h.old_le d₀ hold
  · exact h.sign_le v k hsign

end Detection

namespace DetectionStore

theorem get?_add_self (s : DetectionStore) (h : Hit) :
    (s.add h).get? h.technology.name = some (Detection.after (s.get? h.technology.name) h) :=
  Table.get?_alter_self _ _ _

theorem get?_add_of_ne (s : DetectionStore) (h : Hit) {n : String} (hne : n ≠ h.technology.name) :
    (s.add h).get? n = s.get? n := Table.get?_alter_of_ne _ _ hne

theorem get?_add (s : DetectionStore) (h : Hit) (n : String) :
    (s.add h).get? n =
      if h.technology.name = n then some (Detection.after (s.get? n) h) else s.get? n := by
  split
  · subst n
    exact get?_add_self s h
  · exact get?_add_of_ne s h (Ne.symm ‹_›)

/-- The first sign of a technology makes its detection. -/
theorem get?_add_of_new (s : DetectionStore) {h : Hit} (hnew : s.contains h.technology.name = false)
    (n : String) :
    (s.add h).get? n =
      if h.technology.name = n then some ⟨h.technology, h.version, h.confidence⟩ else s.get? n := by
  rw [get?_add]
  split
  · subst n
    have hnone : s.get? h.technology.name = none := (Table.contains_eq_false_iff s.table).1 hnew
    rw [hnone, Detection.after]
  · rfl

theorem contains_iff (s : DetectionStore) {n : String} :
    s.contains n = true ↔ ∃ d, s.get? n = some d := Table.contains_iff s.table

theorem contains_eq_false_iff (s : DetectionStore) {n : String} :
    s.contains n = false ↔ s.get? n = none := Table.contains_eq_false_iff s.table

theorem mem_names_iff (s : DetectionStore) {n : String} : n ∈ s.names ↔ s.contains n = true :=
  Table.mem_keys_iff s.table

/-- What is known under each name determines a store. -/
theorem ext_get? {s s' : DetectionStore} (h : ∀ n, s.get? n = s'.get? n) : s = s' := by
  obtain ⟨table⟩ := s
  obtain ⟨table'⟩ := s'
  exact congrArg mk (Table.ext_get? h)

/-- Signs of other technologies do not touch what is known under a name. -/
theorem get?_addAll (s : DetectionStore) (hits : List Hit) (n : String) :
    (s.addAll hits).get? n =
      Detection.afterAll (s.get? n) (hits.filter fun h => h.technology.name == n) := by
  induction hits generalizing s with
  | nil => rfl
  | cons h rest ih =>
    rw [addAll, List.foldl_cons, ← addAll, ih, get?_add, List.filter_cons]
    by_cases hn : h.technology.name = n
    · simp [hn, Detection.afterAll]
    · simp [hn]

end DetectionStore

end SiteTech
