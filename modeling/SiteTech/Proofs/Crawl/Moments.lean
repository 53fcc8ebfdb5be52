import SiteTech.Proofs.Crawl.Breadth
import SiteTech.Proofs.Crawl.Course
import Mathlib.Logic.Relation

namespace SiteTech

/-- Where an analysis is: about to announce a depth, with the addresses of the level; visiting the addresses that are
left of a level, with the links found so far; about to leave a level, with its links; or at its end. -/
inductive Stage where
  | opening (depth : UInt32) (level : List String)
  | visiting (depth : UInt32) (left found : List String)
  | leaving (depth : UInt32) (links : List String)
  | ended

namespace Stage

/-- The depth of the level. -/
def depth? : Stage → Option UInt32
  | opening depth _ => some depth
  | visiting depth _ _ => some depth
  | leaving depth _ => some depth
  | ended => none

/-- Whether visits may come before the level is left. -/
def IsOpen : Stage → Prop
  | opening _ _ => True
  | visiting _ _ _ => True
  | leaving _ _ => False
  | ended => False

end Stage

/-- A moment of an analysis, with its records and its surroundings. -/
structure Moment (σ : Type) where
  stage : Stage
  session : Session
  env : σ

/-- The first moment of an analysis. -/
def Moment.first {σ : Type} (address : String) (env : σ) : Moment σ :=
  ⟨.opening 0 [Address.normalize address], Session.start (Address.normalize address), env⟩

namespace Analyzer

variable {σ : Type} (a : Analyzer (StateM σ))

/-- From one moment of an analysis to the next one. A visit goes with its count, and with the wait after it or the end
that it brings. -/
inductive Step : Moment σ → Moment σ → Prop
  | announce {depth level s env} :
      Step ⟨.opening depth level, s, env⟩
        ⟨.visiting depth level [], s.record (.depth depth), ((a.fetcher.announceDepth depth).run env).2⟩
  | visitLast {depth url left found s s' links env env'}
      (hvisit : (a.visitPage s url).run env = ((s', links), env'))
      (hfull : a.config.maxPages ≤ s'.counted.count) :
      Step ⟨.visiting depth (url :: left) found, s, env⟩
        ⟨.leaving depth (links.foldl Link.addNew found), { s'.counted with exhausted := true }, env'⟩
  | visit {depth url left found s s' links env env'}
      (hvisit : (a.visitPage s url).run env = ((s', links), env'))
      (hroom : ¬a.config.maxPages ≤ s'.counted.count) :
      Step ⟨.visiting depth (url :: left) found, s, env⟩
        ⟨.visiting depth left (links.foldl Link.addNew found), s'.counted.record .pause, (a.pause.run env').2⟩
  | close {depth found s env} : Step ⟨.visiting depth [] found, s, env⟩ ⟨.leaving depth found, s, env⟩
  | stop {depth links s env} (hstop : s.exhausted = true ∨ a.config.maxDepth ≤ depth) :
      Step ⟨.leaving depth links, s, env⟩ ⟨.ended, s, env⟩
  | runDry {depth links s env} (hopen : s.exhausted = false) (hdepth : depth < a.config.maxDepth)
      (hnone : (s.enqueue links).2 = []) :
      Step ⟨.leaving depth links, s, env⟩ ⟨.ended, (s.enqueue links).1, env⟩
  | descend {depth links s env} (hopen : s.exhausted = false) (hdepth : depth < a.config.maxDepth)
      (hsome : (s.enqueue links).2 ≠ []) :
      Step ⟨.leaving depth links, s, env⟩ ⟨.opening (depth + 1) (s.enqueue links).2, (s.enqueue links).1, env⟩

/-- An analysis comes to a moment. -/
def Reaches (address : String) (env : σ) : Moment σ → Prop := Relation.ReflTransGen a.Step (.first address env)

theorem reaches_crawlLevel (depth : UInt32) (level : List String) (s : Session) (found : List String) (env : σ) :
    ∃ s' links env', (a.crawlLevel level s found).run env = ((s', links), env') ∧
      Relation.ReflTransGen a.Step ⟨.visiting depth level found, s, env⟩ ⟨.leaving depth links, s', env'⟩ := by
  induction level generalizing s found env with
  | nil => exact ⟨s, found, env, rfl, .single .close⟩
  | cons url level ih =>
    rcases hvisit : (a.visitPage s url).run env with ⟨⟨visited, links⟩, env'⟩
    rw [a.run_crawlLevel_cons hvisit]
    by_cases hfull : a.config.maxPages ≤ visited.counted.count
    · rw [if_pos hfull]
      exact ⟨_, _, _, rfl, .single (.visitLast hvisit hfull)⟩
    · rw [if_neg hfull]
      obtain ⟨s', links', env'', hrun, hrest⟩ := ih (visited.counted.record .pause) (links.foldl Link.addNew found)
        (a.pause.run env').2
      exact ⟨s', links', env'', hrun, .head (.visit hvisit hfull) hrest⟩

theorem reaches_crawlFrom {deeper : Nat} {depth : UInt32} (hdeepest : depth.toNat + deeper = a.config.maxDepth.toNat)
    (level : List String) (s : Session) (env : σ) :
    ∃ s' env', (a.crawlFrom deeper depth level s).run env = (s', env') ∧
      Relation.ReflTransGen a.Step ⟨.opening depth level, s, env⟩ ⟨.ended, s', env'⟩ := by
  induction deeper generalizing depth level s env with
  | zero =>
    obtain ⟨s', links, env', hrun, hlevel⟩ := a.reaches_crawlLevel depth level (s.record (.depth depth)) []
      ((a.fetcher.announceDepth depth).run env).2
    have hlast : a.config.maxDepth ≤ depth := UInt32.le_iff_toNat_le.2 (by omega)
    exact ⟨s', env', a.run_crawlFrom_zero hrun, .head .announce (.tail hlevel (.stop (.inr hlast)))⟩
  | succ deeper ih =>
    obtain ⟨s', links, env', hrun, hlevel⟩ := a.reaches_crawlLevel depth level (s.record (.depth depth)) []
      ((a.fetcher.announceDepth depth).run env).2
    have hdepth : depth < a.config.maxDepth := UInt32.lt_iff_toNat_lt.2 (by omega)
    rw [a.run_crawlFrom_succ hrun]
    cases hexhausted : s'.exhausted with
    | true => exact ⟨s', env', rfl, .head .announce (.tail hlevel (.stop (.inl hexhausted)))⟩
    | false =>
      simp only [Bool.false_eq_true, if_false]
      by_cases hnone : (s'.enqueue links).2 = []
      · rw [if_pos (List.isEmpty_iff.2 hnone)]
        exact ⟨_, env', rfl, .head .announce (.tail hlevel (.runDry hexhausted hdepth hnone))⟩
      · rw [if_neg (mt List.isEmpty_iff.1 hnone)]
        have hmost := a.config.maxDepth.toNat_lt_size
        have hnext : (depth + 1).toNat + deeper = a.config.maxDepth.toNat := by
          rw [toNat_add_one (by omega)]
          omega
        obtain ⟨s'', env'', hlast, hrest⟩ := ih hnext (s'.enqueue links).2 (s'.enqueue links).1 env'
        exact ⟨s'', env'', hlast,
          .head .announce (hlevel.trans (.head (.descend hexhausted hdepth hnone) hrest))⟩

/-- An analysis comes to its result. -/
theorem reaches_run (address : String) (env : σ) :
    ∃ s env', (a.run address).run env = (s, env') ∧ a.Reaches address env ⟨.ended, s, env'⟩ := by
  have hdeepest : (0 : UInt32).toNat + a.config.maxDepth.toNat = a.config.maxDepth.toNat := Nat.zero_add _
  exact a.reaches_crawlFrom hdeepest _ _ _

section Unique

variable {a} {m : Moment σ}

private theorem not_stops {exhausted : Bool} {depth deepest : UInt32} (hopen : exhausted = false)
    (hdepth : depth < deepest) : ¬(exhausted = true ∨ deepest ≤ depth) := by
  rintro (hexhausted | hdeepest)
  · rw [hopen] at hexhausted
    cases hexhausted
  · exact UInt32.not_lt.2 hdeepest hdepth

/-- A moment has one next moment at most. -/
theorem Step.unique {next other : Moment σ} (hnext : a.Step m next) (hother : a.Step m other) : next = other := by
  cases hnext with
  | announce =>
    cases hother
    rfl
  | visitLast hvisit hfull =>
    cases hother with
    | visitLast hvisit' _ =>
      cases hvisit.symm.trans hvisit'
      rfl
    | visit hvisit' hroom =>
      cases hvisit.symm.trans hvisit'
      exact absurd hfull hroom
  | visit hvisit hroom =>
    cases hother with
    | visitLast hvisit' hfull =>
      cases hvisit.symm.trans hvisit'
      exact absurd hfull hroom
    | visit hvisit' _ =>
      cases hvisit.symm.trans hvisit'
      rfl
  | close =>
    cases hother
    rfl
  | stop hstop =>
    cases hother with
    | stop _ => rfl
    | runDry hopen hdepth _ => exact absurd hstop (not_stops hopen hdepth)
    | descend hopen hdepth _ => exact absurd hstop (not_stops hopen hdepth)
  | runDry hopen hdepth hnone =>
    cases hother with
    | stop hstop => exact absurd hstop (not_stops hopen hdepth)
    | runDry _ _ _ => rfl
    | descend _ _ hsome => exact absurd hnone hsome
  | descend hopen hdepth hsome =>
    cases hother with
    | stop hstop => exact absurd hstop (not_stops hopen hdepth)
    | runDry _ _ hnone => exact absurd hnone hsome
    | descend _ _ _ => rfl

/-- Every moment that an analysis comes to is on the way to its result. -/
theorem Reaches.leads_to_result {address : String} {env env' : σ} {s : Session} (h : a.Reaches address env m)
    (hend : a.Reaches address env ⟨.ended, s, env'⟩) : Relation.ReflTransGen a.Step m ⟨.ended, s, env'⟩ := by
  have hunique : Relator.RightUnique a.Step := fun _ _ _ hnext hother => hnext.unique hother
  rcases Relation.ReflTransGen.total_of_right_unique hunique h hend with hmore | hback
  · exact hmore
  · rcases hback.cases_head with rfl | ⟨next, hstep, -⟩
    · exact .refl
    · cases hstep

end Unique

/-- Where an analysis may be, as far as its end and its depths are concerned. -/
structure OnCourse (m : Moment σ) : Prop where
  opened : m.stage.IsOpen → m.session.exhausted = false
  depth_le : ∀ depth, m.stage.depth? = some depth → depth ≤ a.config.maxDepth
  announced : ∀ depth, .depth depth ∈ m.session.events → depth ≤ a.config.maxDepth

variable {a} {m next : Moment σ}

/-- Other records than those of depths do not matter. -/
theorem OnCourse.congr (h : a.OnCourse m) (hopened : next.stage.IsOpen → next.session.exhausted = false)
    (hdepth : next.stage.depth? = m.stage.depth? ∨ next.stage.depth? = none) {events : List CrawlEvent}
    (hevents : next.session.events = m.session.events ++ events)
    (hnew : ∀ depth, .depth depth ∉ events) : a.OnCourse next where
  opened := hopened
  depth_le depth hd := by
    rcases hdepth with hsame | hnone
    · exact h.depth_le depth (hsame ▸ hd)
    · rw [hnone] at hd
      cases hd
  announced depth hd := by
    rw [hevents, List.mem_append] at hd
    exact h.announced depth (hd.resolve_right (hnew depth))

theorem Step.onCourse (hstep : a.Step m next) (h : a.OnCourse m) : a.OnCourse next := by
  cases hstep with
  | @announce depth level s env =>
    refine ⟨fun _ => h.opened trivial, h.depth_le, fun d hd => ?_⟩
    rcases List.mem_append.1 hd with hd | hd
    · exact h.announced d hd
    · cases List.mem_singleton.1 hd
      exact h.depth_le depth rfl
  | visitLast hvisit hfull =>
    obtain ⟨page, -, hevents, -⟩ := a.visitPage_records hvisit
    exact h.congr (fun hopen => hopen.elim) (.inl rfl) hevents (by simp)
  | @visit depth url left found s s' links env env' hvisit hroom =>
    obtain ⟨page, -, hevents, -, hexhausted, -⟩ := a.visitPage_records hvisit
    have hmore : (s'.counted.record .pause).events = s.events ++ [.visit page, .pause] := by
      rw [Session.record, Session.counted, hevents, List.append_assoc]
      rfl
    exact h.congr (fun _ => hexhausted.trans (h.opened trivial)) (.inl rfl) hmore (by simp)
  | close => exact h.congr (fun hopen => hopen.elim) (.inl rfl) (List.append_nil _).symm (by simp)
  | stop => exact h.congr (fun hopen => hopen.elim) (.inr rfl) (List.append_nil _).symm (by simp)
  | @runDry depth links s env =>
    have hevents := (s.enqueue_records links).1.trans (List.append_nil _).symm
    exact h.congr (fun hopen => hopen.elim) (.inr rfl) hevents (by simp)
  | @descend depth links s env hopen hdepth hsome =>
    obtain ⟨hevents, -, hexhausted⟩ := s.enqueue_records links
    have hmost := a.config.maxDepth.toNat_lt_size
    have hless := UInt32.lt_iff_toNat_lt.1 hdepth
    refine ⟨fun _ => hexhausted.trans hopen, fun d hd => ?_, fun d hd => h.announced d (hevents ▸ hd)⟩
    cases hd
    rw [UInt32.le_iff_toNat_le, toNat_add_one (by omega)]
    omega

theorem Reaches.onCourse {address : String} {env : σ} (h : a.Reaches address env m) : a.OnCourse m := by
  induction h with
  | refl =>
    refine ⟨fun _ => rfl, fun depth hd => ?_, fun depth hd => by cases hd⟩
    cases hd
    exact UInt32.le_iff_toNat_le.2 (Nat.zero_le _)
  | tail _ hstep ih => exact hstep.onCourse ih

/-- What an analysis keeps holds at every moment of it, if it holds at its start. -/
theorem Keeps.reaches {I : Session → σ → Prop} (hI : a.Keeps I) {address : String} {env : σ}
    (hstart : I (Session.start (Address.normalize address)) env) (h : a.Reaches address env m) :
    I m.session m.env := by
  induction h with
  | refl => exact hstart
  | @tail m next hm hstep ih =>
    have hopened := (show a.Reaches address env m from hm).onCourse.opened
    cases hstep with
    | announce => exact hI.announce _ _ _ ih
    | visitLast hvisit hfull => exact (hI.visit _ _ _ _ _ _ (hopened trivial) ih hvisit).1 hfull
    | visit hvisit hroom => exact (hI.visit _ _ _ _ _ _ (hopened trivial) ih hvisit).2 hroom
    | close => exact ih
    | stop => exact ih
    | runDry => exact hI.enqueue _ _ _ ih
    | descend => exact hI.enqueue _ _ _ ih

/-- From one moment to the next one, the count stays, or it is counted up with a visit while the analysis is not
exhausted. -/
theorem Step.count (hstep : a.Step m next) (h : a.OnCourse m) :
    (next.session.count = m.session.count ∧ next.session.visits = m.session.visits) ∨
      (next.session.count = m.session.count + 1 ∧ m.session.exhausted = false) := by
  cases hstep with
  | @announce depth level s env => exact .inl ⟨rfl, s.visits_record_depth depth⟩
  | visitLast hvisit hfull =>
    obtain ⟨page, -, -, hcount, -⟩ := a.visitPage_records hvisit
    exact .inr ⟨congrArg (· + 1) hcount, h.opened trivial⟩
  | visit hvisit hroom =>
    obtain ⟨page, -, -, hcount, -⟩ := a.visitPage_records hvisit
    exact .inr ⟨congrArg (· + 1) hcount, h.opened trivial⟩
  | close => exact .inl ⟨rfl, rfl⟩
  | stop => exact .inl ⟨rfl, rfl⟩
  | @runDry depth links s env => exact .inl ⟨(s.enqueue_records links).2.1, (s.enqueue_visits links).1⟩
  | @descend depth links s env => exact .inl ⟨(s.enqueue_records links).2.1, (s.enqueue_visits links).1⟩

/-- From one moment to the next one, the depth stays, or it is counted up from above the deepest level. -/
theorem Step.depth (hstep : a.Step m next) {d d' : UInt32} (hd : m.stage.depth? = some d)
    (hd' : next.stage.depth? = some d') : d' = d ∨ (d' = d + 1 ∧ d < a.config.maxDepth) := by
  cases hstep with
  | announce => exact .inl (Option.some.inj (hd'.symm.trans hd))
  | visitLast => exact .inl (Option.some.inj (hd'.symm.trans hd))
  | visit => exact .inl (Option.some.inj (hd'.symm.trans hd))
  | close => exact .inl (Option.some.inj (hd'.symm.trans hd))
  | stop => cases hd'
  | runDry => cases hd'
  | descend hopen hdepth hsome =>
    cases hd
    cases hd'
    exact .inr ⟨rfl, hdepth⟩

/-- Whatever the greatest depth and the greatest number of pages are, and whatever pages an analysis finds: every moment
that it comes to is on the way to its result. There the count is the number of its visits, it is exhausted exactly if
it has made a visit and the count has reached the greatest number of pages, and no depth that it has announced is over
the greatest one. It visits nothing once it is exhausted, and the count and the depth are counted up only from numbers
below the greatest one of 32 bits. -/
theorem counters_stay_in_range (a : Analyzer (StateM σ)) (address : String) (env : σ) :
    (∃ s env', (a.run address).run env = (s, env') ∧
        ∀ m, a.Reaches address env m → Relation.ReflTransGen a.Step m ⟨.ended, s, env'⟩) ∧
      ∀ m, a.Reaches address env m →
        m.session.count.toNat = m.session.visits.length ∧
        (m.session.exhausted = true ↔ m.session.visits ≠ [] ∧ a.config.maxPages ≤ m.session.count) ∧
        (∀ depth, .depth depth ∈ m.session.events → depth ≤ a.config.maxDepth) ∧
        ∀ next, a.Step m next →
          (m.session.exhausted = true → next.session.visits = m.session.visits) ∧
          (next.session.count = m.session.count ∨
            next.session.count = m.session.count + 1 ∧ m.session.count.toNat < UInt32.size - 1) ∧
          ∀ depth deeper, m.stage.depth? = some depth → next.stage.depth? = some deeper →
            deeper = depth ∨ deeper = depth + 1 ∧ depth.toNat < UInt32.size - 1 := by
  obtain ⟨s, env', hrun, hend⟩ := a.reaches_run address env
  refine ⟨⟨s, env', hrun, fun m hm => hm.leads_to_result hend⟩, fun m hm => ?_⟩
  have hcounts : m.session.Counts a.config.maxPages := a.keeps_counts.reaches (Session.counts_start _ _) hm
  refine ⟨hcounts.count, ?_, hm.onCourse.announced, fun next hstep => ⟨fun hexhausted => ?_, ?_, ?_⟩⟩
  · rw [hcounts.exhausted_iff, UInt32.le_iff_toNat_le, hcounts.count]
  · rcases hstep.count hm.onCourse with ⟨-, hvisits⟩ | ⟨-, hopen⟩
    · exact hvisits
    · rw [hopen] at hexhausted
      cases hexhausted
  · refine (hstep.count hm.onCourse).imp And.left fun ⟨hcount, hopen⟩ => ⟨hcount, ?_⟩
    exact Nat.lt_sub_of_add_lt (hcounts.count_add_one_lt hopen)
  · intro depth deeper hd hd'
    refine (hstep.depth hd hd').imp_right fun ⟨hdeeper, hless⟩ => ⟨hdeeper, ?_⟩
    have hmost := a.config.maxDepth.toNat_lt_size
    have hbelow := UInt32.lt_iff_toNat_lt.1 hless
    omega

/-- Where no page is to be visited, the first visit exhausts an analysis, and it ends with this visit, however deep it
might go. -/
theorem first_visit_exhausts :
    let config := { Config.default with maxPages := 0, maxDepth := 4294967295 }
    let a := (MemorySite.empty.withHtml "http://example.com" "").analyzer config ⟨Table.empty, Table.empty⟩
      .inOrder
    ∃ m next, a.Reaches "http://example.com" ⟨[], 0⟩ m ∧ a.Step m next ∧ m.session.exhausted = true ∧
      m.session.count.toNat = m.session.visits.length ∧ m.session.visits ≠ [] ∧
      next.session.visits = m.session.visits := by
  intro config a
  let start := Address.normalize "http://example.com"
  let announced := (Session.start start).record (.depth 0)
  have hannounced : a.Reaches "http://example.com" ⟨[], 0⟩ ⟨.visiting 0 [start] [], announced, ⟨[], 0⟩⟩ :=
    .single .announce
  have hvisit := MemorySite.run_visitPage (MemorySite.empty.withHtml "http://example.com" "") config
    ⟨Table.empty, Table.empty⟩ .inOrder announced start ⟨[], 0⟩
  have hfull (count : UInt32) : a.config.maxPages ≤ count := UInt32.le_iff_toNat_le.2 (Nat.zero_le _)
  have hreaches := Relation.ReflTransGen.tail hannounced (Step.visitLast hvisit (hfull _))
  obtain ⟨hcount, hexhausted, -, hnext⟩ := (a.counters_stay_in_range "http://example.com" ⟨[], 0⟩).2 _ hreaches
  exact ⟨_, _, hreaches, .stop (.inl rfl), rfl, hcount, (hexhausted.1 rfl).1, (hnext _ (.stop (.inl rfl))).1 rfl⟩

end Analyzer

end SiteTech
