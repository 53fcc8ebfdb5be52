import SiteTech.Proofs.Fetch.Requests
import SiteTech.Proofs.Table

namespace SiteTech

open Http (Request)

namespace WebFetcher

/-- What is asked of a network: the file for robots of an origin, or a page. -/
inductive Errand where
  | file (origin : String)
  | page (url : Url)
deriving DecidableEq

variable (f : WebFetcher (StateM (List Request)))

/-- What asking for the file for robots of an origin gives. -/
def file (origin : String) : Option String := answerOf (f.fetchText (origin ++ "/robots.txt"))

/-- Whether the file of its origin lets us fetch an address. -/
def permits (url : Url) : Bool :=
  match f.file (String.ofList url.origin) with
  | none => true
  | some body => Robots.allows body f.config.userAgent url.text

/-- What fetching an address gives at a depth when no file for robots is known. -/
def pageAt (ready : Bool) (depth : UInt32) (address : String) : Except Error Evidence :=
  if !ready then .error (.fetch .notInitialised)
  else
    match Url.ofText address with
    | .error fault => .error (.invalidUrl (address ++ "：" ++ fault.message))
    | .ok url =>
      if depth = 0 ∨ f.permits url = true then answerOf (f.fetchPage address url)
      else .error (.fetch (.forbiddenByRobots address))

/-- What fetching an address asks of the network: below the first level the file for robots, unless it
is known, and then the page, if it may be fetched. -/
def errands (s : WebState) (address : String) : List Errand :=
  if !s.ready then []
  else
    match Url.ofText address with
    | .error _ => []
    | .ok url =>
      (if s.depth = 0 ∨ s.robots.contains (String.ofList url.origin) = true then []
        else [.file (String.ofList url.origin)]) ++
      if s.depth = 0 ∨ f.permits url = true then [.page url] else []

/-- A file is asked for below the first level if it is not known. -/
theorem file_mem_errands_iff {s : WebState} {address origin : String} :
    .file origin ∈ f.errands s address ↔ s.ready = true ∧ s.depth ≠ 0 ∧
      ∃ url, Url.ofText address = .ok url ∧ ¬s.robots.contains (String.ofList url.origin) = true ∧
        origin = String.ofList url.origin := by
  unfold errands
  cases s.ready with
  | false => simp
  | true =>
    cases Url.ofText address with
    | error fault => simp
    | ok url =>
      by_cases hdepth : s.depth = 0 <;>
        by_cases hknown : s.robots.contains (String.ofList url.origin) = true <;>
        by_cases hpermits : f.permits url = true <;>
        simp [hdepth, hknown, hpermits]

theorem count_file_errands_le (s : WebState) (address origin : String) :
    (f.errands s address).count (.file origin) ≤ 1 := by
  unfold errands
  split
  · exact Nat.zero_le 1
  · cases Url.ofText address with
    | error fault => exact Nat.zero_le 1
    | ok url =>
      dsimp only
      rw [List.count_append]
      have hpage : (if s.depth = 0 ∨ f.permits url = true then [Errand.page url] else []).count
          (.file origin) = 0 := by
        split <;> simp
      rw [hpage, Nat.add_zero]
      split
      · exact Nat.zero_le 1
      · exact List.count_le_length

/-- All requests that an errand gives to the network. -/
def requestsOf : Errand → List Request
  | .file origin => sentBy (f.fetchText (origin ++ "/robots.txt"))
  | .page url => f.network.requestsOf f.config.userAgent url

/-- Every file for robots that is known is what asking for it gives. -/
structure Holds (ready : Bool) (s : WebState) : Prop where
  ready : s.ready = ready
  files : ∀ origin text, s.robots.get? origin = some text → text = f.file origin

variable {f} {ready : Bool} {s : WebState}

theorem Holds.noting (h : f.Holds ready s) (reached : List Request) :
    f.Holds ready (s.noting reached) := ⟨h.ready, h.files⟩

theorem Holds.announce (h : f.Holds ready s) (depth : UInt32) :
    f.Holds ready { s with depth := depth } := ⟨h.ready, h.files⟩

/-- Learning one file. -/
theorem Holds.insert (h : f.Holds ready s) (origin : String) :
    f.Holds ready { s with robots := s.robots.insert origin (f.file origin) } where
  ready := h.ready
  files origin' text htext := by
    by_cases hsame : origin' = origin
    · subst hsame
      rw [Table.get?_insert_self, Option.some.injEq] at htext
      exact htext.symm
    · rw [Table.get?_insert_of_ne _ _ hsame] at htext
      exact h.files origin' text htext

variable (hf : f.network.Steady)

include hf

/-- Looking up a file gives what asking for it gives. It is asked for only if it is not known, and is
known afterwards. -/
theorem run_robotsText (h : f.Holds ready s) (origin : String) :
    ∃ s', Records ((f.robotsText origin).run s) (f.file origin, s')
        (if s.robots.contains origin = true then [] else f.requestsOf (.file origin)) ∧
      f.Holds ready s' ∧ s'.depth = s.depth ∧
      ∀ o, s'.robots.contains o = true ↔ s.robots.contains o = true ∨ o = origin := by
  unfold robotsText
  cases hknown : s.robots.get? origin with
  | some text =>
    have hcontains : s.robots.contains origin = true := s.robots.contains_iff.2 ⟨text, hknown⟩
    refine ⟨s, ?_, h, rfl, fun o => ?_⟩
    · rw [if_pos hcontains, ← h.files origin text hknown]
      simp only [StateT.run_bind, StateT.run_get, pure_bind, hknown]
      exact Records.pure (text, s)
    · constructor
      · exact .inl
      · rintro (ho | rfl)
        · exact ho
        · exact hcontains
  | none =>
    have hcontains : ¬s.robots.contains origin = true := by
      rw [Bool.not_eq_true]
      exact s.robots.contains_eq_false_iff.2 hknown
    obtain ⟨reached, hasks⟩ := Asks.of_exists (exists_asks_fetchText hf (origin ++ "/robots.txt"))
    refine ⟨{ s.noting reached with robots := s.robots.insert origin (f.file origin) }, ?_,
      (h.noting reached).insert origin, rfl, fun o => Table.contains_insert s.robots origin o _⟩
    rw [if_neg hcontains, ← List.append_nil (f.requestsOf _)]
    simp only [StateT.run_bind, StateT.run_get, pure_bind, hknown]
    exact (hasks s).bind (Records.pure (f.file origin, _))

theorem run_isAllowed (h : f.Holds ready s) (url : Url) :
    ∃ s', Records ((f.isAllowed url).run s) (f.permits url, s')
        (if s.robots.contains (String.ofList url.origin) = true then []
          else f.requestsOf (.file (String.ofList url.origin))) ∧
      f.Holds ready s' ∧ s'.depth = s.depth ∧
      ∀ o, s'.robots.contains o = true ↔
        s.robots.contains o = true ∨ o = String.ofList url.origin := by
  obtain ⟨s', hrun, hholds⟩ := run_robotsText hf h (String.ofList url.origin)
  refine ⟨s', ?_, hholds⟩
  unfold isAllowed permits
  rw [StateT.run_bind, ← List.append_nil (ite _ _ _)]
  refine hrun.bind ?_
  cases f.file (String.ofList url.origin) with
  | none => exact Records.pure (true, s')
  | some body => exact Records.pure (Robots.allows body f.config.userAgent url.text, s')

theorem run_fetchIf (h : f.Holds ready s) (allowed : Bool) (address : String) (url : Url) :
    ∃ s', Records ((f.fetchIf allowed address url).run s)
        (if allowed = true then answerOf (f.fetchPage address url)
          else .error (.fetch (.forbiddenByRobots address)), s')
        (if allowed = true then f.requestsOf (.page url) else []) ∧
      f.Holds ready s' ∧ s'.depth = s.depth ∧ s'.robots = s.robots := by
  cases allowed with
  | false => exact ⟨s, Records.pure _, h, rfl, rfl⟩
  | true =>
    obtain ⟨result, reached, hasks⟩ := exists_asks_fetchPage hf address url
    have hresult : answerOf (f.fetchPage address url) = result := by
      rw [answerOf, hasks .start []]
    refine ⟨s.noting reached, ?_, h.noting reached, rfl, rfl⟩
    rw [if_pos rfl, if_pos rfl, hresult]
    exact hasks s

/-- Fetching an address gives what it would give if no file for robots were known. It sends the
requests of its errands, and the files that it asks for are known afterwards. -/
theorem run_scrape (h : f.Holds ready s) (address : String) :
    ∃ s', Records ((f.scrape address).run s) (f.pageAt ready s.depth address, s')
        ((f.errands s address).flatMap f.requestsOf) ∧
      f.Holds ready s' ∧ s'.depth = s.depth ∧
      ∀ o, s'.robots.contains o = true ↔
        s.robots.contains o = true ∨ .file o ∈ f.errands s address := by
  have hready := h.ready
  rw [scrape_eq]
  simp only [file_mem_errands_iff, StateT.run_bind, StateT.run_get, pure_bind, pageAt, hready]
  unfold errands
  cases ready with
  | false => exact ⟨s, by simpa [hready] using Records.pure _, h, rfl, by simp⟩
  | true =>
    cases hurl : Url.ofText address with
    | error fault => exact ⟨s, by simpa [hready] using Records.pure _, h, rfl, by simp⟩
    | ok url =>
      simp only [hready, Bool.not_true, Bool.false_eq_true, if_false]
      by_cases hdepth : s.depth = 0
      · have hfirst : ¬0 < s.depth := by simp [hdepth]
        obtain ⟨s', hrun, hholds, hsame, hrobots⟩ := run_fetchIf hf h true address url
        refine ⟨s', ?_, hholds, hsame, by simp [hdepth, hrobots]⟩
        simpa [hdepth, hfirst] using hrun
      · have hbelow : 0 < s.depth := UInt32.pos_iff_ne_zero.2 hdepth
        obtain ⟨s', hrun, hholds, hsame, hrobots⟩ := run_isAllowed hf h url
        obtain ⟨s'', hrun', hholds', hsame', hrobots'⟩ :=
          run_fetchIf hf hholds (f.permits url) address url
        have hboth := Records.bind_run (f := fun allowed => f.fetchIf allowed address url) hrun hrun'
        refine ⟨s'', ?_, hholds', hsame'.trans hsame, fun o => ?_⟩
        · by_cases hknown : s.robots.contains (String.ofList url.origin) = true <;>
            by_cases hpermits : f.permits url = true <;>
            simpa [hdepth, hbelow, hknown, hpermits] using hboth
        · rw [hrobots', hrobots]
          constructor
          · rintro (ho | rfl)
            · exact .inl ho
            · by_cases hknown : s.robots.contains (String.ofList url.origin) = true
              · exact .inl hknown
              · exact .inr ⟨trivial, hdepth, url, rfl, hknown, rfl⟩
          · rintro (ho | ⟨-, -, _, hsame, -, rfl⟩)
            · exact .inl ho
            · cases hsame
              exact .inr rfl

omit hf in
/-- What is done with a fetcher: the depth of what follows is announced, or a page is fetched. -/
inductive Call where
  | announce (depth : UInt32)
  | scrape (address : String)

/-- One call, of which the answer does not matter. -/
def call {m : Type → Type} [Monad m] (f : WebFetcher m) : Call → StateT WebState m Unit
  | .announce depth => f.fetcher.announceDepth depth
  | .scrape address => do
    let _ ← f.fetcher.scrape address

/-- The state after a call. -/
def after (f : WebFetcher (StateM (List Request))) (s : WebState) (call : Call) : WebState :=
  (((f.call call).run s).run []).1.2

/-- The errands of a call. -/
def errandsFor (f : WebFetcher (StateM (List Request))) (s : WebState) : Call → List Errand
  | .announce _ => []
  | .scrape address => f.errands s address

/-- The errands of calls one after the other. -/
def errandsOf (f : WebFetcher (StateM (List Request))) : WebState → List Call → List Errand
  | _, [] => []
  | s, call :: rest => f.errandsFor s call ++ f.errandsOf (f.after s call) rest

omit hf in
theorem file_not_mem_errandsFor {call : Call} {origin : String}
    (hknown : s.robots.contains origin = true) : .file origin ∉ f.errandsFor s call := by
  cases call with
  | announce depth => exact List.not_mem_nil
  | scrape address =>
    intro hmem
    obtain ⟨-, -, url, -, hnew, rfl⟩ := f.file_mem_errands_iff.1 hmem
    exact hnew hknown

omit hf in
theorem count_file_errandsFor_le (call : Call) (origin : String) :
    (f.errandsFor s call).count (.file origin) ≤ 1 := by
  cases call with
  | announce depth => exact Nat.zero_le 1
  | scrape address => exact f.count_file_errands_le s address origin

/-- The call that fetches an address. -/
theorem run_call_scrape (h : f.Holds ready s) (address : String) :
    Records ((f.call (.scrape address)).run s) ((), f.after s (.scrape address))
        ((f.errands s address).flatMap f.requestsOf) ∧
      f.Holds ready (f.after s (.scrape address)) ∧ (f.after s (.scrape address)).depth = s.depth ∧
      ∀ o, (f.after s (.scrape address)).robots.contains o = true ↔
        s.robots.contains o = true ∨ .file o ∈ f.errands s address := by
  obtain ⟨s', hrun, hholds, hdepth, hrobots⟩ := run_scrape hf h address
  have hcall : Records ((f.call (.scrape address)).run s) ((), s')
      ((f.errands s address).flatMap f.requestsOf) := by
    rw [← List.append_nil (List.flatMap _ _)]
    exact Records.bind_run hrun (Records.pure ((), s'))
  have hafter : f.after s (.scrape address) = s' := by
    rw [after, hcall []]
  rw [hafter]
  exact ⟨hcall, hholds, hdepth, hrobots⟩

theorem run_call (h : f.Holds ready s) (call : Call) :
    Records ((f.call call).run s) ((), f.after s call)
        ((f.errandsFor s call).flatMap f.requestsOf) ∧
      f.Holds ready (f.after s call) ∧
      ∀ o, (f.after s call).robots.contains o = true ↔
        s.robots.contains o = true ∨ .file o ∈ f.errandsFor s call := by
  cases call with
  | announce depth =>
    refine ⟨Records.pure _, h.announce depth, fun o => ?_⟩
    have hsame : (f.after s (.announce depth)).robots = s.robots := rfl
    simp [hsame, errandsFor]
  | scrape address =>
    obtain ⟨hcall, hholds, -, hrobots⟩ := run_call_scrape hf h address
    exact ⟨hcall, hholds, hrobots⟩

/-- Calls send the requests of their errands, and leave only files that asking for them would give. No
file is asked for that is known, and none is asked for twice. -/
theorem run_calls (h : f.Holds ready s) (calls : List Call) :
    ∃ s', Records ((forM calls f.call).run s) ((), s')
        ((f.errandsOf s calls).flatMap f.requestsOf) ∧
      f.Holds ready s' ∧
      ∀ origin, (s.robots.contains origin = true → .file origin ∉ f.errandsOf s calls) ∧
        (f.errandsOf s calls).count (.file origin) ≤ 1 := by
  induction calls generalizing s with
  | nil => exact ⟨s, Records.pure _, h, by simp [errandsOf]⟩
  | cons call rest ih =>
    obtain ⟨hcall, hholds, hrobots⟩ := run_call hf h call
    obtain ⟨s', hrest, hholds', hfiles⟩ := ih hholds
    rw [List.forM_cons, errandsOf, List.flatMap_append]
    refine ⟨s', hcall.bind_run hrest, hholds', fun origin => ?_⟩
    obtain ⟨hknown, hcount⟩ := hfiles origin
    rw [List.count_append, List.mem_append, not_or]
    refine ⟨fun hthere => ⟨file_not_mem_errandsFor hthere, hknown ((hrobots origin).2 (.inl hthere))⟩, ?_⟩
    -- What a call asks for is known afterwards, and what is known is not asked for by the rest.
    by_cases hasked : .file origin ∈ f.errandsFor s call
    · have hlater := hknown ((hrobots origin).2 (.inr hasked))
      rw [List.count_eq_zero_of_not_mem hlater]
      exact count_file_errandsFor_le call origin
    · rw [List.count_eq_zero_of_not_mem hasked, Nat.zero_add]
      exact hcount

end WebFetcher

end SiteTech
