import SiteTech.Proofs.Crawl.Simulation
import SiteTech.Proofs.Crawl.Steps
import SiteTech.Proofs.Fetch.Robots

namespace SiteTech

open Http (Request)

theorem run_run_bind_eq {σ τ α β : Type} {x : StateT σ (StateM τ) α}
    {f : α → StateT σ (StateM τ) β} {s s' : σ} {log log' : τ} {a : α}
    (hx : (x.run s).run log = ((a, s'), log')) :
    ((x >>= f).run s).run log = ((f a).run s').run log' := by
  rw [StateT.run_bind, run_bind_eq hx]

/-- Two runs of a program from states that `before` relates give one answer, and end in states that
`after` relates. What they record may differ. -/
def Agrees {σ τ α : Type} (before after : σ → σ → Prop) (x : StateT σ (StateM τ) α) : Prop :=
  ∀ s t log log', before s t →
    ((x.run s).run log).1.1 = ((x.run t).run log').1.1 ∧
      after ((x.run s).run log).1.2 ((x.run t).run log').1.2

namespace Agrees

variable {σ τ α β : Type} {R S T : σ → σ → Prop}

theorem pure (a : α) : Agrees R R (Pure.pure a : StateT σ (StateM τ) α) :=
  fun _ _ _ _ h => ⟨rfl, h⟩

theorem bind {x : StateT σ (StateM τ) α} {f : α → StateT σ (StateM τ) β} (hx : Agrees R S x)
    (hf : ∀ a, Agrees S T (f a)) : Agrees R T (x >>= f) := by
  intro s t log log' hrelated
  obtain ⟨hanswer, hstates⟩ := hx s t log log' hrelated
  rcases hs : (x.run s).run log with ⟨⟨a, s'⟩, left⟩
  rcases ht : (x.run t).run log' with ⟨⟨b, t'⟩, right⟩
  rw [hs, ht] at hanswer hstates
  obtain rfl : a = b := hanswer
  rw [run_run_bind_eq hs, run_run_bind_eq ht]
  exact hf a s' t' left right hstates

/-- What changes nothing but the record agrees. -/
theorem lift (x : StateM τ Unit) : Agrees R R (monadLift x : StateT σ (StateM τ) Unit) :=
  fun _ _ _ _ h => ⟨rfl, h⟩

theorem forM {f : β → StateT σ (StateM τ) PUnit} (hf : ∀ b, Agrees R R (f b)) (list : List β) :
    Agrees R R (forM list f) := by
  induction list with
  | nil => exact .pure _
  | cons b rest ih =>
    rw [List.forM_cons]
    exact (hf b).bind fun _ => ih

theorem mono {x : StateT σ (StateM τ) α} (h : Agrees S T x) (hbefore : ∀ s t, R s t → S s t) :
    Agrees R T x :=
  fun s t log log' hrelated => h s t log log' (hbefore s t hrelated)

end Agrees

namespace Analyzer

variable {σ τ : Type} {a : Analyzer (StateT σ (StateM τ))} {R S : σ → σ → Prop}
  (hscrape : ∀ address, Agrees S S (a.fetcher.scrape address)) (hpause : Agrees S S a.pause)
  (hannounce : ∀ depth, Agrees R S (a.fetcher.announceDepth depth)) (hforget : ∀ s t, S s t → R s t)

include hscrape hpause hannounce hforget

theorem simulates_of_agrees : Simulates (fun x _ => Agrees S S x) a a where
  answer := .pure
  next := .bind
  config := rfl
  catalog := rfl
  schedule := rfl
  probe := rfl
  announceDepth depth := (hannounce depth).mono hforget
  scrape := hscrape
  pause := hpause

/-- Announcing the depth relates the states for all that a level fetches. -/
theorem agrees_crawlFrom (deeper : Nat) (depth : UInt32) (level : List String) (s : Session) :
    Agrees R S (a.crawlFrom deeper depth level s) := by
  have hsame := simulates_of_agrees hscrape hpause hannounce hforget
  unfold crawlFrom
  refine (hannounce depth).bind fun _ => (hsame.crawlLevel level _ []).bind fun crawled => ?_
  cases deeper with
  | zero => exact .pure _
  | succ deeper =>
    dsimp only
    split
    · exact .pure _
    · split
      · exact .pure _
      · exact hsame.crawlFrom deeper _ _ _

theorem agrees_analyze (address : String) : Agrees R S (a.analyze address) :=
  (agrees_crawlFrom hscrape hpause hannounce hforget _ _ _ _).bind fun _ => .pure _

end Analyzer

namespace WebFetcher

variable (f : WebFetcher (StateM (List Request))) (ready : Bool)

/-- Two states in which all files that are known are right. -/
def BothHold (s t : WebState) : Prop := f.Holds ready s ∧ f.Holds ready t

/-- Two such states with one depth. -/
def Matching (s t : WebState) : Prop := f.BothHold ready s t ∧ s.depth = t.depth

variable {f ready}

theorem agrees_announceDepth (depth : UInt32) :
    Agrees (f.BothHold ready) (f.Matching ready) (f.fetcher.announceDepth depth) :=
  fun _ _ _ _ h => ⟨rfl, ⟨h.1.announce depth, h.2.announce depth⟩, rfl⟩

theorem agrees_scrape (hf : f.network.Steady) (address : String) :
    Agrees (f.Matching ready) (f.Matching ready) (f.scrape address) := by
  intro s t log log' hrelated
  obtain ⟨⟨hholds, hholds'⟩, hdepth⟩ := hrelated
  obtain ⟨s', hs, hholdsLeft, hdepthLeft, -⟩ := run_scrape hf hholds address
  obtain ⟨t', ht, hholdsRight, hdepthRight, -⟩ := run_scrape hf hholds' address
  rw [hs log, ht log']
  refine ⟨?_, ⟨hholdsLeft, hholdsRight⟩, hdepthLeft.trans (hdepth.trans hdepthRight.symm)⟩
  dsimp only
  rw [hdepth]

end WebFetcher

/-- A site to analyse: the settings, the technologies to look for, what is left to chance and the page to
start from. -/
structure Assignment where
  config : Config
  catalog : Catalog
  schedule : Schedule
  address : String

/-- An analysis over a way to fetch pages, with a way to wait between two of them. -/
def Assignment.analyze {m : Type → Type} [Monad m] (task : Assignment) (f : WebFetcher m)
    (pause : m Unit) : StateT WebState m (Except Error Report) :=
  Analyzer.analyze ⟨task.config, task.catalog, task.schedule, f.fetcher, monadLift pause⟩ task.address

theorem Assignment.agrees_analyze {f : WebFetcher (StateM (List Request))} (hf : f.network.Steady)
    (ready : Bool) (task : Assignment) (pause : StateM (List Request) Unit) :
    Agrees (f.BothHold ready) (f.Matching ready) (task.analyze f pause) :=
  Analyzer.agrees_analyze (WebFetcher.agrees_scrape hf) (.lift pause) WebFetcher.agrees_announceDepth
    (fun _ _ => And.left) task.address

/-- Analyses one after the other, of which the answers do not matter. -/
def Assignment.analyzeAll {m : Type → Type} [Monad m] (tasks : List Assignment) (f : WebFetcher m)
    (pause : m Unit) : StateT WebState m Unit :=
  forM tasks fun task => do
    let _ ← task.analyze f pause

theorem Assignment.agrees_analyzeAll {f : WebFetcher (StateM (List Request))} (hf : f.network.Steady)
    (ready : Bool) (tasks : List Assignment) (pause : StateM (List Request) Unit) :
    Agrees (f.BothHold ready) (f.BothHold ready) (Assignment.analyzeAll tasks f pause) := by
  refine Agrees.forM (fun task => ?_) tasks
  refine (task.agrees_analyze hf ready pause).bind fun _ => ?_
  exact (Agrees.pure ()).mono fun _ _ h => h.1

/-- No file for robots is known when fetching has been set up. -/
theorem WebFetcher.holds_init (f : WebFetcher (StateM (List Request))) :
    f.Holds ((f.init.run .start).run []).1.2.ready ((f.init.run .start).run []).1.2 := by
  refine ⟨rfl, fun origin text htext => ?_⟩
  have hrobots : ((f.init.run .start).run []).1.2.robots = Table.empty := by
    by_cases hname : Http.isUserAgent f.config.userAgent <;>
      simp [init, WebState.start, hname] <;> rfl
  rw [hrobots] at htext
  cases htext

/-- Let fetching be set up over a network whose answers never change, and let any calls follow. A page
that is then fetched is what it would be if nothing but the depth had been announced. The requests are
those of the errands, and no file for robots is an errand twice. After further analyses an analysis
has the result that it has as the first one. -/
theorem robots_files_are_transparent (config : Config) (network : Http.Network Id)
    (calls : List WebFetcher.Call) :
    let f : WebFetcher (StateM (List Request)) := ⟨config, network.recorded⟩
    let fresh := ((f.init.run .start).run []).1.2
    let done := ((forM calls f.call).run fresh).run []
    (∀ address, (((f.scrape address).run done.1.2).run done.2).1.1 =
      (((do f.fetcher.announceDepth done.1.2.depth; f.scrape address).run fresh).run []).1.1) ∧
    done.2 = (f.errandsOf fresh calls).flatMap f.requestsOf ∧
    (∀ origin, (f.errandsOf fresh calls).count (.file origin) ≤ 1) ∧
    ∀ (earlier : List Assignment) (task : Assignment) (pause : StateM (List Request) Unit),
      let later := ((Assignment.analyzeAll earlier f pause).run done.1.2).run done.2
      (((task.analyze f pause).run later.1.2).run later.2).1.1 =
        (((task.analyze f pause).run fresh).run []).1.1 := by
  intro f fresh done
  have hf : f.network.Steady := Http.Network.steady_recorded network
  have hfresh : f.Holds fresh.ready fresh := f.holds_init
  obtain ⟨s, hcalls, hs, hfiles⟩ := WebFetcher.run_calls hf hfresh calls
  have hdone : done = (((), s), (f.errandsOf fresh calls).flatMap f.requestsOf) := hcalls []
  have hholds : f.Holds fresh.ready done.1.2 := by rwa [hdone]
  refine ⟨fun address => ?_, by rw [hdone], fun origin => (hfiles origin).2, fun earlier task pause => ?_⟩
  · have hmatching : f.Matching fresh.ready done.1.2 { fresh with depth := done.1.2.depth } :=
      ⟨⟨hholds, hfresh.announce done.1.2.depth⟩, rfl⟩
    exact (WebFetcher.agrees_scrape hf address _ _ done.2 [] hmatching).1
  · intro later
    have hlater : f.BothHold fresh.ready later.1.2 later.1.2 :=
      (Assignment.agrees_analyzeAll hf fresh.ready earlier pause _ _ done.2 done.2 ⟨hholds, hholds⟩).2
    exact (task.agrees_analyze hf fresh.ready pause _ _ later.2 [] ⟨hlater.1, hfresh⟩).1

end SiteTech
