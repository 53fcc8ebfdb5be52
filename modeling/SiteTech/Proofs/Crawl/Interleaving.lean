import SiteTech.Proofs.Crawl.Calls
import SiteTech.Proofs.Crawl.Program
import SiteTech.Proofs.Url.Plain
import Mathlib.Logic.Function.Iterate

namespace SiteTech

open Http (Network Request)

/-- A program on its way: what is left of it, the depth that it has announced last, and the addresses that
it has fetched, each with what it was given. -/
structure Running (α : Type) where
  rest : Program α
  depth : UInt32
  fetched : List (String × Except Error Evidence)

namespace Running

variable {ι α : Type} [DecidableEq ι]

/-- A program that has not done anything, at the depth that was announced last. -/
def start (depth : UInt32) (p : Program α) : Running α := ⟨p, depth, []⟩

section

variable {m : Type → Type} [Monad m]

/-- Makes the next call of a program. One that is done makes none. -/
def turn (f : Fetcher m) (r : Running α) : m (Running α) :=
  match r.rest with
  | .done _ => pure r
  | .announce depth rest => do
    f.announceDepth depth
    return { r with rest := rest, depth := depth }
  | .scrape address rest => do
    let result ← f.scrape address
    return { r with rest := rest result, fetched := r.fetched ++ [(address, result)] }

/-- Programs take turns, in a given order. -/
def takeTurns (f : Fetcher m) : List ι → (ι → Running α) → m (ι → Running α)
  | [], runs => return runs
  | i :: rest, runs => do
    let r ← (runs i).turn f
    takeTurns f rest (Function.update runs i r)

end

variable (page : UInt32 → String → Except Error Evidence)

/-- The next call of a program, if pages are fetched at a depth. -/
def turnAt (depth : UInt32) (r : Running α) : Running α :=
  match r.rest with
  | .done _ => r
  | .announce announced rest => { r with rest := rest, depth := announced }
  | .scrape address rest =>
    { r with
      rest := rest (page depth address)
      fetched := r.fetched ++ [(address, page depth address)] }

/-- The depth that has been announced last after the next call of a program. -/
def depthAfter (depth : UInt32) (r : Running α) : UInt32 :=
  match r.rest with
  | .announce announced _ => announced
  | _ => depth

/-- The programs after they have taken turns, and the depth that has been announced last. -/
def afterTurns : List ι → (ι → Running α) → UInt32 → (ι → Running α) × UInt32
  | [], runs, depth => (runs, depth)
  | i :: rest, runs, depth =>
    afterTurns rest (Function.update runs i ((runs i).turnAt page depth)) ((runs i).depthAfter depth)

/-- The next call of a program that is not interrupted. -/
def ownTurn (r : Running α) : Running α := r.turnAt page r.depth

/-- The page that a program fetches next is the same at a depth as at the one that it has announced. -/
def Sees (depth : UInt32) (r : Running α) : Prop :=
  ∀ address rest, r.rest = .scrape address rest → page depth address = page r.depth address

/-- No turn of a program in an order finds another page than the program would find at its own depth. -/
def Undisturbed (schedule : List ι) (runs : ι → Running α) (depth : UInt32) (i : ι) : Prop :=
  ∀ front, front ++ [i] <+: schedule →
    ((afterTurns page front runs depth).1 i).Sees page (afterTurns page front runs depth).2

variable {page} {r : Running α} {runs : ι → Running α} {depth : UInt32} {i j : ι}

theorem fetched_prefix_turnAt : r.fetched <+: (r.turnAt page depth).fetched := by
  unfold turnAt
  split
  · exact List.prefix_rfl
  · exact List.prefix_rfl
  · exact List.prefix_append _ _

theorem fetched_prefix_afterTurns (schedule : List ι) :
    (runs i).fetched <+: ((afterTurns page schedule runs depth).1 i).fetched := by
  induction schedule generalizing runs depth with
  | nil => exact List.prefix_rfl
  | cons j rest ih =>
    refine List.IsPrefix.trans ?_ ih
    by_cases hturn : i = j
    · subst hturn
      rw [Function.update_self]
      exact fetched_prefix_turnAt
    · simp only [Function.update_of_ne hturn, List.prefix_rfl]

theorem fetched_prefix_iterate (n : Nat) : r.fetched <+: ((ownTurn page)^[n] r).fetched := by
  induction n generalizing r with
  | zero => exact List.prefix_rfl
  | succ n ih => exact fetched_prefix_turnAt.trans ih

theorem Sees.turnAt_eq (h : r.Sees page depth) : r.turnAt page depth = r.ownTurn page := by
  unfold ownTurn turnAt
  split
  · rfl
  · rfl
  · rename_i address rest hrest
    rw [h address rest hrest]

/-- What a program was given is never lost: after another page than its own, it does not get back to where
it would be. -/
theorem sees_of_fetched_eq {r' : Running α} {n : Nat}
    (hgiven : (r.turnAt page depth).fetched <+: r'.fetched)
    (hsame : r'.fetched = ((ownTurn page)^[n] (r.ownTurn page)).fetched) : r.Sees page depth := by
  intro address rest hrest
  have hown : (r.ownTurn page).fetched <+: r'.fetched := hsame ▸ fetched_prefix_iterate n
  unfold ownTurn at hown
  unfold turnAt at hgiven hown
  simp only [hrest] at hgiven hown
  have heq := (List.prefix_of_prefix_length_le hgiven hown (by simp)).eq_of_length (by simp)
  simpa using heq

theorem undisturbed_cons {schedule : List ι} :
    Undisturbed page (j :: schedule) runs depth i ↔ (j = i → (runs i).Sees page depth) ∧
      Undisturbed page schedule (Function.update runs j ((runs j).turnAt page depth))
        ((runs j).depthAfter depth) i := by
  constructor
  · intro h
    refine ⟨fun hji => h [] (by simp [hji]), fun front hfront => h (j :: front) ?_⟩
    rwa [List.cons_append, List.prefix_cons_inj]
  · rintro ⟨hfirst, hrest⟩ front hfront
    cases front with
    | nil => exact hfirst (List.cons_prefix_cons.1 hfront).1.symm
    | cons k front =>
      obtain ⟨rfl, hlater⟩ := List.cons_prefix_cons.1 hfront
      exact hrest front hlater

/-- A program is where its own turns alone would have led it if and only if it is not disturbed. -/
theorem afterTurns_eq_iterate_iff (schedule : List ι) :
    (afterTurns page schedule runs depth).1 i = (ownTurn page)^[schedule.count i] (runs i) ↔
      Undisturbed page schedule runs depth i := by
  induction schedule generalizing runs depth with
  | nil =>
    refine ⟨fun _ front hfront => ?_, fun _ => rfl⟩
    simp at hfront
  | cons j schedule ih =>
    rw [undisturbed_cons, ← ih]
    by_cases hturn : j = i
    · subst hturn
      rw [afterTurns, Function.update_self, List.count_cons_self, Function.iterate_succ_apply]
      refine ⟨fun hsame => ?_, fun ⟨hsees, hrest⟩ => ?_⟩
      · have hsees : (runs j).Sees page depth := by
          refine sees_of_fetched_eq ?_ (congrArg fetched hsame)
          have hupdated := Function.update_self j ((runs j).turnAt page depth) runs
          exact (congrArg fetched hupdated).symm ▸ fetched_prefix_afterTurns schedule
        exact ⟨fun _ => hsees, by rw [hsame, hsees.turnAt_eq]⟩
      · rw [hrest, (hsees rfl).turnAt_eq]
    · rw [afterTurns, Function.update_of_ne (Ne.symm hturn), List.count_cons_of_ne hturn]
      exact ⟨fun h => ⟨fun hji => absurd hji hturn, h⟩, And.right⟩

/-- A program whose turns are the only ones finds all pages at its own depth. -/
theorem undisturbed_of_forall_eq {schedule : List ι} (hall : ∀ j ∈ schedule, j = i)
    (hdepth : depth = (runs i).depth) : Undisturbed page schedule runs depth i := by
  induction schedule generalizing runs depth with
  | nil =>
    intro front hfront
    simp at hfront
  | cons j schedule ih =>
    obtain ⟨rfl, hall⟩ := List.forall_mem_cons.1 hall
    subst hdepth
    refine undisturbed_cons.2 ⟨fun _ address rest _ => rfl, ih hall ?_⟩
    rw [Function.update_self]
    unfold depthAfter turnAt
    split <;> split <;> simp_all

end Running

namespace WebFetcher

open Running

section

variable (f : WebFetcher (StateM (List Request))) {ready : Bool} {depth depth' : UInt32}

/-- Only the file for robots has a page forbidden. -/
theorem answerOf_fetchPage_ne_forbidden (address : String) (url : Url) :
    answerOf (f.fetchPage address url) ≠ .error (.fetch (.forbiddenByRobots address)) := by
  unfold answerOf fetchPage
  rcases hrequest : ((f.request url).run .start).run [] with ⟨⟨result, s⟩, log⟩
  rw [run_run_bind_eq hrequest]
  cases result with
  | error fault => cases fault <;> exact nofun
  | ok answer =>
    dsimp only [readAnswer]
    split
    · cases answer.message.text with
      | ok html => exact nofun
      | error fault =>
        cases fault with
        | unfinished => dsimp only; split <;> exact nofun
        | malformed => exact nofun
    · exact nofun

/-- An address gives the same at two depths if it may be fetched anyway, or if both or none of them are the
depth of the start. Otherwise it does not. -/
theorem pageAt_eq_iff (address : String) :
    f.pageAt ready depth address = f.pageAt ready depth' address ↔
      ∀ url, ready = true → Url.ofText address = .ok url →
        f.permits url = true ∨ (depth = 0 ↔ depth' = 0) := by
  unfold pageAt
  cases ready with
  | false => simp
  | true =>
    cases Url.ofText address with
    | error fault => simp
    | ok url =>
      have hne := f.answerOf_fetchPage_ne_forbidden address url
      by_cases hpermits : f.permits url = true <;> by_cases hdepth : depth = 0 <;>
        by_cases hdepth' : depth' = 0 <;> simp [hpermits, hdepth, hdepth', hne, hne.symm]

end

variable {f : WebFetcher (StateM (List Request))} (hf : f.network.Steady) {ready : Bool} {s : WebState}
  {ι α : Type} [DecidableEq ι]

include hf

/-- The next call of a program fetches pages at the depth that was announced last. -/
theorem run_turn (h : f.Holds ready s) (r : Running α) :
    ∃ s' sent, Records ((r.turn f.fetcher).run s) (r.turnAt (f.pageAt ready) s.depth, s') sent ∧
      f.Holds ready s' ∧ s'.depth = r.depthAfter s.depth := by
  unfold turn turnAt depthAfter
  cases r.rest with
  | done result => exact ⟨s, [], .pure _, h, rfl⟩
  | announce depth rest =>
    refine ⟨{ s with depth := depth }, [], fun log => ?_, h.announce depth, rfl⟩
    rw [List.append_nil]
    rfl
  | scrape address rest =>
    obtain ⟨s', hrun, hholds, hdepth, -⟩ := run_scrape hf h address
    exact ⟨s', _, hrun.bind_run (.pure _), hholds, hdepth⟩

/-- What programs are given when they take turns is told by the depths that they announce. -/
theorem run_takeTurns (h : f.Holds ready s) (schedule : List ι) (runs : ι → Running α) :
    ∃ s' sent,
      Records ((takeTurns f.fetcher schedule runs).run s)
        ((afterTurns (f.pageAt ready) schedule runs s.depth).1, s') sent ∧
      f.Holds ready s' ∧ s'.depth = (afterTurns (f.pageAt ready) schedule runs s.depth).2 := by
  induction schedule generalizing s runs with
  | nil => exact ⟨s, [], .pure _, h, rfl⟩
  | cons i schedule ih =>
    obtain ⟨s', sent, hturn, hholds, hdepth⟩ := run_turn hf h (runs i)
    obtain ⟨s'', more, hrest, hholds', hdepth'⟩ :=
      ih hholds (Function.update runs i ((runs i).turnAt (f.pageAt ready) s.depth))
    rw [hdepth] at hrest hdepth'
    exact ⟨s'', sent ++ more, hturn.bind_run hrest, hholds', hdepth'⟩

/-- A program whose turns are the only ones ends, with the result of the program run without a break. -/
theorem exists_iterate_done (h : f.Holds ready s) (p : Program α)
    (fetched : List (String × Except Error Evidence)) (log : List Request) :
    ∃ turns, ∀ more,
      ((ownTurn (f.pageAt ready))^[turns + more] ⟨p, s.depth, fetched⟩).rest =
        .done (((p.run f.fetcher).run s).run log).1.1 := by
  induction p generalizing s fetched log with
  | done result =>
    refine ⟨0, fun more => ?_⟩
    rw [Function.iterate_fixed rfl]
    rfl
  | announce depth rest ih =>
    obtain ⟨turns, hturns⟩ := ih (h.announce depth) fetched log
    refine ⟨turns + 1, fun more => ?_⟩
    rw [Nat.add_right_comm, Function.iterate_succ_apply]
    exact hturns more
  | scrape address rest ih =>
    obtain ⟨s', hrun, hholds, hdepth, -⟩ := run_scrape hf h address
    obtain ⟨turns, hturns⟩ := ih (f.pageAt ready s.depth address) hholds
      (fetched ++ [(address, f.pageAt ready s.depth address)])
      (log ++ (f.errands s address).flatMap f.requestsOf)
    refine ⟨turns + 1, fun more => ?_⟩
    rw [Nat.add_right_comm, Function.iterate_succ_apply]
    rw [hdepth] at hturns
    have hresult := run_run_bind_eq (f := fun result => (rest result).run f.fetcher) (hrun log)
    exact (hturns more).trans (congrArg (fun run => Program.done run.1.1) hresult.symm)

omit hf in
/-- If the next call of a program fetches a page that the file for robots forbids, then the depth that was
announced last and the one that the program has announced are both that of the start, or neither of them is. -/
def Suits (f : WebFetcher (StateM (List Request))) (s : WebState) (r : Running α) : Prop :=
  ∀ address rest url, r.rest = .scrape address rest → s.ready = true → Url.ofText address = .ok url →
    f.permits url = true ∨ (s.depth = 0 ↔ r.depth = 0)

omit hf in
theorem suits_iff (h : f.Holds ready s) {r : Running α} :
    f.Suits s r ↔ r.Sees (f.pageAt ready) s.depth := by
  unfold Suits Sees
  simp only [pageAt_eq_iff, h.ready]
  exact ⟨fun h address rest hrest url => h address rest url hrest,
    fun h address rest url hrest => h address rest hrest url⟩

end WebFetcher

open Running

/-- An analysis that has not made any call. -/
def Assignment.begun (task : Assignment) (f : WebFetcher (StateM (List Request))) (depth : UInt32) :
    Running (Except Error Report) :=
  .start depth ((task.analyzer f (pure ())).stepwise.analyze task.address)

/-- Let analyses over one fetcher take turns after any calls, over a network whose answers never change.
Each of them is where its turns alone would have led it, with all that it has fetched, if and only if the
depth that was announced last was always good for it when it fetched a page. If so, after enough turns it
ends with the result that it has when it is run alone. -/
theorem analyses_taking_turns {ι : Type} [DecidableEq ι] (config : Config) (network : Network Id)
    (earlier : List WebFetcher.Call) (tasks : ι → Assignment) (i : ι) :
    let f : WebFetcher (StateM (List Request)) := ⟨config, network.recorded⟩
    let fresh := ((f.init.run .start).run []).1.2
    let start := (((forM earlier f.call).run fresh).run []).1.2
    let after (schedule : List ι) :=
      (((takeTurns f.fetcher schedule fun j => (tasks j).begun f start.depth).run start).run []).1
    let suited (schedule : List ι) :=
      ∀ front, front ++ [i] <+: schedule → f.Suits (after front).2 ((after front).1 i)
    (∀ schedule, (after schedule).1 i = (after (schedule.filter (· = i))).1 i ↔ suited schedule) ∧
      ∃ turns, ∀ schedule, turns ≤ schedule.count i → suited schedule →
        ((after schedule).1 i).rest =
          .done (((((tasks i).analyzer f (pure ())).analyze (tasks i).address).run start).run []).1.1 := by
  intro f fresh start after suited
  have hf : f.network.Steady := network.steady_recorded
  obtain ⟨s, hearlier, hs, -⟩ := WebFetcher.run_calls hf f.holds_init earlier
  have hstart : f.Holds fresh.ready start := by
    have hsame : start = s := congrArg (fun run => run.1.2) (hearlier [])
    rwa [hsame]
  let runs := fun j => (tasks j).begun f start.depth
  let page := f.pageAt fresh.ready
  have hafter (schedule : List ι) :
      (after schedule).1 = (afterTurns page schedule runs start.depth).1 ∧
        f.Holds fresh.ready (after schedule).2 ∧
        (after schedule).2.depth = (afterTurns page schedule runs start.depth).2 := by
    obtain ⟨s', sent, hrun, hholds, hdepth⟩ := WebFetcher.run_takeTurns hf hstart schedule runs
    have hsame : after schedule = _ := congrArg Prod.fst (hrun [])
    rw [hsame]
    exact ⟨rfl, hholds, hdepth⟩
  have hsuited (schedule : List ι) : suited schedule ↔ Undisturbed page schedule runs start.depth i := by
    refine forall_congr' fun front => imp_congr_right fun _ => ?_
    obtain ⟨hruns, hholds, hdepth⟩ := hafter front
    rw [WebFetcher.suits_iff hholds, hruns, hdepth]
  have halone (schedule : List ι) : (after (schedule.filter (· = i))).1 i =
      (ownTurn page)^[schedule.count i] (runs i) := by
    rw [(hafter _).1, ← List.count_filter (p := (· = i)) (l := schedule) (decide_eq_true rfl)]
    refine (afterTurns_eq_iterate_iff _).2 (undisturbed_of_forall_eq (fun j hj => ?_) rfl)
    exact of_decide_eq_true (List.mem_filter.1 hj).2
  refine ⟨fun schedule => ?_, ?_⟩
  · rw [halone, (hafter schedule).1, hsuited]
    exact afterTurns_eq_iterate_iff schedule
  · obtain ⟨turns, hturns⟩ := WebFetcher.exists_iterate_done hf hstart
      (((tasks i).analyzer f (pure ())).stepwise.analyze (tasks i).address) [] []
    refine ⟨turns, fun schedule hcount hsuits => ?_⟩
    obtain ⟨more, hmore⟩ := Nat.exists_eq_add_of_le hcount
    rw [(hafter schedule).1, (afterTurns_eq_iterate_iff schedule).2 ((hsuited schedule).1 hsuits), hmore]
    refine (hturns more).trans ?_
    rw [← ((tasks i).analyzer f (pure ())).run_analyze rfl]
    rfl

/-- A site where every page has a link to a page that the file for robots forbids. -/
def closedSite : Network Id where
  deliver request :=
    if request.url = Url.examplePage ["robots.txt".toList] then
      .answered ⟨200, [], Text.encode "User-agent: *\nDisallow: /p", false, none⟩
    else .answered ⟨200, [], Text.encode "<body><a href=/p></a></body>", false, none⟩
  records _ := Table.empty

/-- Fetching pages of the site with the usual settings. -/
def closedFetcher : WebFetcher (StateM (List Request)) := ⟨Config.default, closedSite.recorded⟩

/-- An analysis of the first page of the site and those below it, which looks for nothing. -/
def closedTask : Assignment :=
  ⟨{ Config.default with maxDepth := 1 }, ⟨Table.empty, Table.empty⟩, .inOrder, "http://example.com"⟩

private theorem exists_rest_begun (depth : UInt32) :
    ∃ next, (closedTask.begun closedFetcher depth).rest = .announce 0 (.scrape "http://example.com" next) ∧
      ∀ e : Evidence, e.linksFrom "http://example.com" = ["http://example.com/p"] →
        ∃ next', next (.ok e) = .announce 1 (.scrape "http://example.com/p" next') := by
  have hnormal : Address.normalize "http://example.com" = "http://example.com" := by decide
  have hstart : Address.isValid "http://example.com" = true := by decide
  have hpage : Address.isValid "http://example.com/p" = true := by decide
  obtain ⟨next, hfirst, hnext⟩ := (closedTask.analyzer closedFetcher (pure ())).exists_crawlFrom_eq_next hstart
    (s := .start "http://example.com") (by decide) rfl 0 0
  refine ⟨fun result => next result >>= fun s => pure s.outcome, ?_, fun e hlinks => ?_⟩
  · have hrun : (closedTask.analyzer closedFetcher (pure ())).stepwise.run "http://example.com" =
        .announce 0 (.scrape "http://example.com" next) := by
      rw [Analyzer.run, hnormal]
      exact hfirst
    exact congrArg (· >>= fun s => pure s.outcome) hrun
  · obtain ⟨s, hs⟩ := hnext e _ hlinks (by decide)
    obtain ⟨next', hsecond⟩ := (closedTask.analyzer closedFetcher (pure ())).exists_crawlFrom_eq_scrape hpage 0
      (0 + 1) [] s
    exact ⟨_, congrArg (· >>= fun s => pure s.outcome) (hs.trans hsecond)⟩

private theorem fetched_closedTask {page : UInt32 → String → Except Error Evidence} {e : Evidence}
    (hpage : page 0 "http://example.com" = .ok e)
    (hlinks : e.linksFrom "http://example.com" = ["http://example.com/p"]) :
    let runs : Bool → Running (Except Error Report) := fun _ => closedTask.begun closedFetcher 0
    ((afterTurns page [true, true, true, false, true] runs 0).1 true).fetched =
        [("http://example.com", .ok e), ("http://example.com/p", page 0 "http://example.com/p")] ∧
      ((afterTurns page [true, true, true, true] runs 0).1 true).fetched =
        [("http://example.com", .ok e), ("http://example.com/p", page 1 "http://example.com/p")] := by
  intro runs
  obtain ⟨next, hrest, hnext⟩ := exists_rest_begun 0
  obtain ⟨next', hnext'⟩ := hnext e hlinks
  have hbegun (i : Bool) : runs i = ⟨.announce 0 (.scrape "http://example.com" next), 0, []⟩ :=
    congrArg (fun rest => (⟨rest, 0, []⟩ : Running (Except Error Report))) hrest
  simp [afterTurns, turnAt, depthAfter, hbegun, Function.update, hpage, hnext']

/-- The first page has one link, to the page that is forbidden below the start only. -/
private theorem exists_pages_closedSite :
    ∃ e e', closedFetcher.pageAt true 0 "http://example.com" = .ok e ∧
      e.linksFrom "http://example.com" = ["http://example.com/p"] ∧
      closedFetcher.pageAt true 0 "http://example.com/p" = .ok e' ∧
      closedFetcher.pageAt true 1 "http://example.com/p" =
        .error (.fetch (.forbiddenByRobots "http://example.com/p")) := by
  have hclosed : Url.ofText "http://example.com/p" = .ok (Url.examplePage ["p".toList]) :=
    Url.ofText_examplePage "p".toList [] (by decide)
  have hforbidden : closedFetcher.permits (Url.examplePage ["p".toList]) = false := by
    have horigin : String.ofList (Url.examplePage ["p".toList]).origin = "http://example.com" := rfl
    have hfile : closedFetcher.file "http://example.com" = some "User-agent: *\nDisallow: /p" := by
      rw [WebFetcher.file, WebFetcher.fetchText, Url.ofText_exampleRobots]
      decide +kernel
    rw [WebFetcher.permits, horigin, hfile]
    decide
  have hanswer : ((answerOf (closedFetcher.fetchPage "http://example.com" (Url.examplePage [[]]))).toOption.map
      fun e => (e.html, e.page.url)) = some ("<body><a href=/p></a></body>", "http://example.com/") := by
    decide +kernel
  have hanswer' : ((answerOf (closedFetcher.fetchPage "http://example.com/p"
      (Url.examplePage ["p".toList]))).toOption.map fun e => (e.html, e.page.url)) =
        some ("<body><a href=/p></a></body>", "http://example.com/p") := by
    decide +kernel
  have hfound : Address.normalize "http://example.com/" = Address.normalize "http://example.com" := by
    decide
  have hlinks : Link.ofPage "<body><a href=/p></a></body>" (Url.examplePage [[]]) =
      ["http://example.com/p"] := by decide +kernel
  obtain ⟨e, hpage, hlinked⟩ := WebFetcher.exists_pageAt_start Url.ofText_exampleHome hanswer hfound
  obtain ⟨e', hpage', -⟩ := WebFetcher.exists_pageAt_start hclosed hanswer' rfl
  refine ⟨e, e', hpage, hlinked.trans hlinks, hpage', ?_⟩
  simp only [WebFetcher.pageAt, hclosed, hforbidden]
  rfl

/-- One of two analyses fetches a page that the file for robots forbids, since the other one is begun right
before. Alone it does not. -/
theorem interrupted_analysis_fetches_forbidden_page :
    let start := ((closedFetcher.init.run .start).run []).1.2
    let after (schedule : List Bool) :=
      (((takeTurns closedFetcher.fetcher schedule fun _ => closedTask.begun closedFetcher start.depth).run
        start).run []).1.1
    (∃ e, ("http://example.com/p", .ok e) ∈ (after [true, true, true, false, true] true).fetched) ∧
      ("http://example.com/p", .error (.fetch (.forbiddenByRobots "http://example.com/p"))) ∈
        (after [true, true, true, true] true).fetched := by
  have hready : ((closedFetcher.init.run .start).run []).1.2 = { WebState.start with ready := true } :=
    WebFetcher.init_default closedSite.recorded
  have hholds : closedFetcher.Holds true { WebState.start with ready := true } := ⟨rfl, fun _ _ h => by cases h⟩
  intro start after
  have hafter (schedule : List Bool) : after schedule = (afterTurns (closedFetcher.pageAt true) schedule
      (fun _ => closedTask.begun closedFetcher 0) 0).1 := by
    obtain ⟨s, sent, hrun, -⟩ := WebFetcher.run_takeTurns closedSite.steady_recorded hholds schedule
      fun _ => closedTask.begun closedFetcher 0
    have hstart : start = { WebState.start with ready := true } := hready
    have hsame := congrArg (fun run => run.1.1) (hrun [])
    simp only [after, hstart]
    exact hsame
  obtain ⟨e, e', hpage, hlinks, hopen, hshut⟩ := exists_pages_closedSite
  obtain ⟨hinterrupted, halone⟩ := fetched_closedTask hpage hlinks
  rw [hafter, hafter, hinterrupted, halone, hopen, hshut]
  exact ⟨⟨e', by simp⟩, by simp⟩

end SiteTech
