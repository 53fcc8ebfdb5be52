import SiteTech.Crawl.Session

namespace SiteTech.Analyzer

variable {m n : Type → Type} [Monad m] [Monad n]

/-- Two analyses of one task do the same, where what it means to do the same is kept by giving an answer and by going
on with one. -/
structure Simulates (Same : {α : Type} → m α → n α → Prop) (a : Analyzer m) (b : Analyzer n) : Prop where
  answer : ∀ {α : Type} (x : α), Same (pure x) (pure x)
  next : ∀ {α β : Type} {x : m α} {y : n α} {f : α → m β} {g : α → n β},
    Same x y → (∀ answer, Same (f answer) (g answer)) → Same (x >>= f) (y >>= g)
  config : a.config = b.config
  catalog : a.catalog = b.catalog
  schedule : a.schedule = b.schedule
  probe : a.fetcher.probe = b.fetcher.probe
  announceDepth : ∀ depth, Same (a.fetcher.announceDepth depth) (b.fetcher.announceDepth depth)
  scrape : ∀ address, Same (a.fetcher.scrape address) (b.fetcher.scrape address)
  pause : Same a.pause b.pause

namespace Simulates

variable {Same : {α : Type} → m α → n α → Prop} {a : Analyzer m} {b : Analyzer n} (h : Simulates Same a b)

include h

theorem visitPage (s : Session) (url : String) : Same (a.visitPage s url) (b.visitPage s url) := by
  unfold Analyzer.visitPage
  dsimp only
  split
  · refine h.next (h.scrape url) fun answer => ?_
    cases answer with
    | error fault => exact h.answer _
    | ok e =>
      rw [h.catalog, h.schedule, h.probe]
      exact h.answer _
  · exact h.answer _

theorem crawlLevel (level : List String) (s : Session) (found : List String) :
    Same (a.crawlLevel level s found) (b.crawlLevel level s found) := by
  induction level generalizing s found with
  | nil => exact h.answer _
  | cons url level ih =>
    rw [Analyzer.crawlLevel, Analyzer.crawlLevel, h.config]
    refine h.next (h.visitPage s url) fun visited => ?_
    dsimp only
    split
    · exact h.answer _
    · exact h.next h.pause fun _ => ih _ _

theorem crawlFrom (deeper : Nat) (depth : UInt32) (level : List String) (s : Session) :
    Same (a.crawlFrom deeper depth level s) (b.crawlFrom deeper depth level s) := by
  induction deeper generalizing depth level s with
  | zero =>
    refine h.next (h.announceDepth depth) fun _ => ?_
    exact h.next (h.crawlLevel level _ []) fun _ => h.answer _
  | succ deeper ih =>
    refine h.next (h.announceDepth depth) fun _ => ?_
    refine h.next (h.crawlLevel level _ []) fun crawled => ?_
    dsimp only
    split
    · exact h.answer _
    · split
      · exact h.answer _
      · exact ih _ _ _

theorem run (address : String) : Same (a.run address) (b.run address) := by
  rw [Analyzer.run, Analyzer.run, h.config]
  exact h.crawlFrom _ _ _ _

theorem analyze (address : String) : Same (a.analyze address) (b.analyze address) :=
  h.next (h.run address) fun _ => h.answer _

end Simulates

end SiteTech.Analyzer
