import SiteTech.Proofs.Crawl.Simulation

namespace SiteTech

/-- A program that announces depths and fetches pages, and goes on with what is fetched. -/
inductive Program (α : Type) where
  | done (result : α)
  | announce (depth : UInt32) (rest : Program α)
  | scrape (address : String) (rest : Except Error Evidence → Program α)

namespace Program

variable {m : Type → Type} [Monad m] {α β : Type}

/-- One program and then another one. -/
def bind : Program α → (α → Program β) → Program β
  | done a, next => next a
  | announce depth rest, next => announce depth (rest.bind next)
  | scrape address rest, next => scrape address fun result => (rest result).bind next

instance : Monad Program where
  pure := done
  bind := bind

/-- The programs of one call each, which evaluate expressions as a given fetcher does. -/
def fetcher (f : Fetcher m) : Fetcher Program :=
  { canRender := f.canRender
    evaluate := f.evaluate
    announceDepth := fun depth => announce depth (done ())
    scrape := fun address => scrape address done }

/-- Runs a program without a break. -/
def run (f : Fetcher m) : Program α → m α
  | done a => pure a
  | announce depth rest => do
    f.announceDepth depth
    rest.run f
  | scrape address rest => do
    let result ← f.scrape address
    (rest result).run f

variable (f : Fetcher m)

@[simp] theorem run_pure (a : α) : (pure a : Program α).run f = pure a := rfl

variable [LawfulMonad m]

@[simp] theorem run_bind (p : Program α) (next : α → Program β) :
    (p >>= next).run f = p.run f >>= fun a => (next a).run f := by
  induction p with
  | done a => exact (pure_bind a fun a => (next a).run f).symm
  | announce depth rest ih =>
    rw [run, bind_assoc]
    exact bind_congr fun _ => ih
  | scrape address rest ih =>
    rw [run, bind_assoc]
    exact bind_congr ih

@[simp] theorem run_announceDepth (depth : UInt32) :
    ((fetcher f).announceDepth depth).run f = f.announceDepth depth :=
  bind_pure (f.announceDepth depth)

@[simp] theorem run_scrape (address : String) :
    ((fetcher f).scrape address).run f = f.scrape address :=
  bind_pure (f.scrape address)

end Program

namespace Analyzer

variable {m : Type → Type} (a : Analyzer m)

/-- An analysis without its waiting, as a program. -/
def stepwise : Analyzer Program :=
  ⟨a.config, a.catalog, a.schedule, Program.fetcher a.fetcher, pure ()⟩

section

variable {url : String} (hvalid : Address.isValid url = true)

include hvalid

/-- A level is begun by announcing its depth and fetching its first page. -/
theorem exists_crawlFrom_eq_scrape (deeper : Nat) (depth : UInt32) (level : List String) (s : Session) :
    ∃ next, a.stepwise.crawlFrom deeper depth (url :: level) s = .announce depth (.scrape url next) := by
  cases deeper <;> rw [crawlFrom, crawlLevel, visitPage, if_pos hvalid] <;> exact ⟨_, rfl⟩

/-- After a level of one page that has one new link, this link is the next level. -/
theorem exists_crawlFrom_eq_next {s : Session} (hpages : ¬a.config.maxPages ≤ s.count + 1)
    (hexhausted : s.exhausted = false) (deeper : Nat) (depth : UInt32) :
    ∃ next, a.stepwise.crawlFrom (deeper + 1) depth [url] s = .announce depth (.scrape url next) ∧
      ∀ (e : Evidence) (link : String), e.linksFrom url = [link] → link ∉ s.known →
        ∃ s', next (.ok e) = a.stepwise.crawlFrom deeper (depth + 1) [link] s' := by
  refine ⟨?next, ?first, fun e link hlinks hnew => ?rest⟩
  case first =>
    rw [crawlFrom, crawlLevel, visitPage, if_pos hvalid]
    exact rfl
  case rest =>
    have hmore : ¬a.stepwise.config.maxPages ≤ s.count + 1 := hpages
    simp only [hlinks, bind, Program.bind, pure, Session.record, if_neg hmore, crawlLevel]
    simp only [stepwise, pure, Program.bind]
    simp only [hexhausted, Bool.false_eq_true, if_false, List.foldl_cons, List.foldl_nil, Link.addNew,
      List.contains_nil, List.nil_append, Session.enqueue, List.contains_iff_mem, if_neg hnew,
      List.isEmpty_cons]
    exact ⟨_, rfl⟩

end

variable [Monad m] [LawfulMonad m]

/-- The program of an analysis that does not wait, run without a break, does the same. -/
theorem simulates_stepwise (hpause : a.pause = pure ()) :
    Simulates (fun p x => p.run a.fetcher = x) a.stepwise a where
  answer _ := rfl
  next hx hrest := by rw [Program.run_bind, hx, bind_congr hrest]
  config := rfl
  catalog := rfl
  schedule := rfl
  probe := rfl
  announceDepth := Program.run_announceDepth a.fetcher
  scrape := Program.run_scrape a.fetcher
  pause := hpause.symm

/-- The program of an analysis, run without a break, is the analysis. -/
theorem run_analyze (hpause : a.pause = pure ()) (address : String) :
    (a.stepwise.analyze address).run a.fetcher = a.analyze address :=
  (a.simulates_stepwise hpause).analyze address

end Analyzer

end SiteTech
