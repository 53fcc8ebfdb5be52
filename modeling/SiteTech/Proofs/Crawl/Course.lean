import SiteTech.Proofs.Crawl.Steps

namespace SiteTech

namespace Analyzer

variable {σ : Type} (a : Analyzer (StateM σ))

/-- What an analysis keeps while it goes on: announcing a depth, visiting a page with the wait after it or
with the end that it brings, and taking in links. -/
structure Keeps (I : Session → σ → Prop) : Prop where
  announce : ∀ s env depth, I s env → I (s.record (.depth depth)) ((a.fetcher.announceDepth depth).run env).2
  visit : ∀ s url env s' links env', s.exhausted = false → I s env →
    (a.visitPage s url).run env = ((s', links), env') →
    (a.config.maxPages ≤ s'.counted.count → I { s'.counted with exhausted := true } env') ∧
    (¬a.config.maxPages ≤ s'.counted.count → I (s'.counted.record .pause) (a.pause.run env').2)
  enqueue : ∀ s env links, I s env → I (s.enqueue links).1 env

namespace Keeps

variable {a} {I : Session → σ → Prop} (h : a.Keeps I)

include h

theorem crawlLevel {s : Session} (hopen : s.exhausted = false) {env : σ} (hs : I s env)
    (level found : List String) :
    ∃ s' found' env', (a.crawlLevel level s found).run env = ((s', found'), env') ∧ I s' env' := by
  induction level generalizing s found env with
  | nil => exact ⟨s, found, env, rfl, hs⟩
  | cons url level ih =>
    rcases hrun : (a.visitPage s url).run env with ⟨⟨visited, links⟩, env'⟩
    obtain ⟨page, -, -, -, hexhausted, -⟩ := a.visitPage_records hrun
    obtain ⟨hlast, hwait⟩ := h.visit s url env visited links env' hopen hs hrun
    rw [a.run_crawlLevel_cons hrun]
    by_cases hfull : a.config.maxPages ≤ visited.counted.count
    · rw [if_pos hfull]
      exact ⟨_, _, env', rfl, hlast hfull⟩
    · rw [if_neg hfull]
      exact ih (s := visited.counted.record .pause) (hexhausted.trans hopen) (hwait hfull) _

theorem crawlFrom {s : Session} (hopen : s.exhausted = false) {env : σ} (hs : I s env) (deeper : Nat)
    (depth : UInt32) (level : List String) :
    ∃ s' env', (a.crawlFrom deeper depth level s).run env = (s', env') ∧ I s' env' := by
  induction deeper generalizing s env depth level with
  | zero =>
    obtain ⟨s', links, env', hrun, hs'⟩ := h.crawlLevel (s := s.record (.depth depth)) hopen
      (h.announce s env depth hs) level []
    exact ⟨s', env', a.run_crawlFrom_zero hrun, hs'⟩
  | succ deeper ih =>
    obtain ⟨s', links, env', hrun, hs'⟩ := h.crawlLevel (s := s.record (.depth depth)) hopen
      (h.announce s env depth hs) level []
    rw [a.run_crawlFrom_succ hrun]
    cases hexhausted : s'.exhausted with
    | true => exact ⟨s', env', rfl, hs'⟩
    | false =>
      have hqueued := h.enqueue s' env' links hs'
      have hopen' : (s'.enqueue links).1.exhausted = false :=
        (s'.enqueue_records links).2.2.trans hexhausted
      simp only [Bool.false_eq_true, if_false]
      split
      · exact ⟨_, env', rfl, hqueued⟩
      · exact ih hopen' hqueued (depth + 1) (s'.enqueue links).2

/-- What an analysis keeps holds when it ends, if it holds at its start. -/
theorem run (address : String) (env : σ) (hstart : I (Session.start (Address.normalize address)) env) :
    ∃ s env', (a.run address).run env = (s, env') ∧ I s env' :=
  h.crawlFrom rfl hstart _ _ _

omit h in
/-- What is kept may be put together. -/
theorem and {J : Session → σ → Prop} (hI : a.Keeps I) (hJ : a.Keeps J) :
    a.Keeps fun s env => I s env ∧ J s env where
  announce s env depth hs := ⟨hI.announce s env depth hs.1, hJ.announce s env depth hs.2⟩
  visit s url env s' links env' hopen hs hrun := by
    obtain ⟨hlast, hwait⟩ := hI.visit s url env s' links env' hopen hs.1 hrun
    obtain ⟨hlast', hwait'⟩ := hJ.visit s url env s' links env' hopen hs.2 hrun
    exact ⟨fun hfull => ⟨hlast hfull, hlast' hfull⟩, fun hroom => ⟨hwait hroom, hwait' hroom⟩⟩
  enqueue s env links hs := ⟨hI.enqueue s env links hs.1, hJ.enqueue s env links hs.2⟩

end Keeps

/-- The surroundings are always as the recorded events leave them. -/
theorem keeps_recorded (begun : σ) : a.Keeps fun s env => env = a.after s.events begun where
  announce s env depth hs := by
    rw [Session.record, after_append, ← hs]
    rfl
  visit s url env s' links env' _ hs hrun := by
    obtain ⟨page, -, hevents, -, -, henv⟩ := a.visitPage_records hrun
    have hvisited : env' = a.after s'.events begun := by rw [hevents, after_append, ← hs, henv]
    refine ⟨fun _ => hvisited, fun _ => ?_⟩
    rw [Session.record, after_append, Session.counted, ← hvisited]
    rfl
  enqueue s env links hs := by rw [(s.enqueue_records links).1, hs]

end Analyzer

/-- The count of an analysis is the number of its visits, which is at most the greatest number of pages, or one
if this is zero. It is exhausted once it has made a visit and reached the greatest number. -/
structure Session.Counts (most : UInt32) (s : Session) : Prop where
  count : s.count.toNat = s.visits.length
  within : s.visits.length ≤ max 1 most.toNat
  exhausted_iff : s.exhausted = true ↔ s.visits ≠ [] ∧ most.toNat ≤ s.visits.length

theorem Session.counts_start (most : UInt32) (url : String) : (Session.start url).Counts most where
  count := rfl
  within := Nat.zero_le _
  exhausted_iff := by simp [start, visits]

/-- The records that tell the number of visits do not change. -/
theorem Session.Counts.congr {most : UInt32} {s s' : Session} (h : s.Counts most)
    (hvisits : s'.visits = s.visits) (hcount : s'.count = s.count) (hexhausted : s'.exhausted = s.exhausted) :
    s'.Counts most where
  count := by rw [hcount, hvisits, h.count]
  within := hvisits ▸ h.within
  exhausted_iff := by rw [hexhausted, hvisits, h.exhausted_iff]

/-- While an analysis is not exhausted, there is room for one more visit. -/
theorem Session.Counts.room {most : UInt32} {s : Session} (h : s.Counts most) (hopen : s.exhausted = false) :
    s.visits.length < max 1 most.toNat := by
  have hnot : ¬(s.visits ≠ [] ∧ most.toNat ≤ s.visits.length) := by simp [← h.exhausted_iff, hopen]
  by_cases hnone : s.visits = []
  · rw [hnone, List.length_nil]
    omega
  · have hlt := Nat.lt_of_not_le fun hle => hnot ⟨hnone, hle⟩
    omega

/-- While an analysis is not exhausted, its count is below the greatest number of 32 bits. -/
theorem Session.Counts.count_add_one_lt {most : UInt32} {s : Session} (h : s.Counts most)
    (hopen : s.exhausted = false) : s.count.toNat + 1 < UInt32.size := by
  have hroom := h.room hopen
  have hmost := most.toNat_lt_size
  have hsize : UInt32.size = 4294967296 := rfl
  rw [h.count]
  omega

/-- One more visit is counted, and there is no more room if it is one too many for another one. The count does
not wrap around, since there was room for this visit. -/
theorem Session.Counts.visit {most : UInt32} {s s' : Session} (h : s.Counts most)
    (hopen : s.exhausted = false) {page : PageStatus} (hvisits : s'.visits = s.visits ++ [page])
    (hcount : s'.count = s.count + 1) (hexhausted : s'.exhausted = true ↔ most ≤ s'.count) :
    s'.Counts most := by
  have hroom := h.room hopen
  have hlength : s'.visits.length = s.visits.length + 1 := by simp [hvisits]
  have hcount' : s'.count.toNat = s'.visits.length := by
    rw [hcount, toNat_add_one (h.count_add_one_lt hopen), h.count, hlength]
  refine ⟨hcount', by omega, ?_⟩
  rw [hexhausted, UInt32.le_iff_toNat_le, hcount']
  simp [hvisits]

/-- An analysis counts its visits. -/
theorem Analyzer.keeps_counts {σ : Type} (a : Analyzer (StateM σ)) :
    a.Keeps fun s _ => s.Counts a.config.maxPages where
  announce s env depth hs := hs.congr (s.visits_record_depth depth) rfl rfl
  visit s url env s' links env' hopen hs hrun := by
    obtain ⟨page, -, hevents, hcount, hexhausted, -⟩ := a.visitPage_records hrun
    have hvisits : s'.counted.visits = s.visits ++ [page] := Session.visits_of_events hevents
    have hcounted : s'.counted.count = s.count + 1 := congrArg (· + 1) hcount
    constructor
    · intro hfull
      exact hs.visit hopen hvisits hcounted (iff_of_true rfl hfull)
    · intro hroom
      have hgoing : ¬s'.counted.exhausted = true := by simp [Session.counted, hexhausted, hopen]
      have hs' : s'.counted.Counts a.config.maxPages :=
        hs.visit hopen hvisits hcounted (iff_of_false hgoing hroom)
      exact hs'.congr s'.counted.visits_record_pause rfl rfl
  enqueue s env links hs :=
    hs.congr (s.enqueue_visits links).1 (s.enqueue_records links).2.1 (s.enqueue_records links).2.2

end SiteTech
