import SiteTech.Proofs.Crawl.Levels
import SiteTech.Proofs.Crawl.Steps

namespace SiteTech

/-- All links that an analysis can take from an address have a property, whatever it finds there. -/
def LeadsTo (P : String → Prop) (url : String) : Prop :=
  ∀ e : Evidence, ∀ link ∈ e.linksFrom url, P link

namespace Analyzer

variable {σ : Type} {P : String → Prop}

/-- Visiting an address records one visit, and gives links that have the property. -/
theorem exists_run_visitPage (a : Analyzer (StateM σ)) {url : String} (hurl : LeadsTo P url)
    (s : Session) (env : σ) :
    ∃ s' links env' page, (a.visitPage s url).run env = ((s', links), env') ∧ page.url = url ∧
      s'.visits = s.visits ++ [page] ∧ ∀ link ∈ links, P link := by
  obtain ⟨s', links, env', page, hrun, hpage, hevents, -, -, -, hlinks⟩ :=
    a.exists_visitPage_records s url env
  refine ⟨s', links, env', page, hrun, hpage, Session.visits_of_events hevents, fun link hlink => ?_⟩
  obtain ⟨e, he⟩ := hlinks link hlink
  exact hurl e link he

/-- Crawling a level visits a start of it, which is not empty unless the level is, and gives links that
have the property. -/
theorem exists_run_crawlLevel (a : Analyzer (StateM σ)) {level found : List String}
    (hlevel : ∀ url ∈ level, LeadsTo P url) (hfound : ∀ link ∈ found, P link) (s : Session) (env : σ) :
    ∃ s' found' env' pages, (a.crawlLevel level s found).run env = ((s', found'), env') ∧
      pages.map PageStatus.url <+: level ∧ (level ≠ [] → pages ≠ []) ∧
      s'.visits = s.visits ++ pages ∧ ∀ link ∈ found', P link := by
  induction level generalizing s found env with
  | nil => exact ⟨s, found, env, [], rfl, List.prefix_rfl, by simp, by simp, hfound⟩
  | cons url level ih =>
    obtain ⟨visited, links, env', page, hrun, hpage, hvisits, hlinks⟩ :=
      a.exists_run_visitPage (hlevel url List.mem_cons_self) s env
    have hmore : ∀ link ∈ links.foldl Link.addNew found, P link := by
      intro link hlink
      rcases Link.mem_foldl_addNew.1 hlink with hlink | hlink
      · exact hfound link hlink
      · exact hlinks link hlink
    rw [a.run_crawlLevel_cons hrun]
    split
    · refine ⟨_, _, env', [page], rfl, ?_, by simp, hvisits, hmore⟩
      simp [hpage]
    · obtain ⟨s', found', env'', pages, hrest, hprefix, -, hpages, hfound'⟩ :=
        ih (fun url hurl => hlevel url (List.mem_cons_of_mem _ hurl)) hmore
          (visited.counted.record .pause) (a.pause.run env').2
      refine ⟨s', found', env'', page :: pages, hrest, ?_, by simp, ?_, hfound'⟩
      · rw [List.map_cons, hpage]
        exact List.cons_prefix_cons.2 ⟨rfl, hprefix⟩
      · rw [hpages, Session.visits_record_pause, List.append_cons, ← hvisits]
        rfl

/-- From a level on, an analysis visits a start of the level and then only addresses with the
property, if the links of each of them have it. -/
theorem exists_run_crawlFrom (a : Analyzer (StateM σ)) (hP : ∀ url, P url → LeadsTo P url) {deeper : Nat}
    {depth : UInt32} {level : List String} (hlevel : ∀ url ∈ level, LeadsTo P url) (s : Session)
    (env : σ) :
    ∃ s' env' pages below, (a.crawlFrom deeper depth level s).run env = (s', env') ∧
      pages.map PageStatus.url <+: level ∧ (level ≠ [] → pages ≠ []) ∧
      s'.visits = s.visits ++ pages ++ below ∧ ∀ page ∈ below, P page.url := by
  have hnone : ∀ link ∈ ([] : List String), P link := by simp
  induction deeper generalizing depth level s env with
  | zero =>
    obtain ⟨s', links, env', pages, hrun, hprefix, hne, hvisits, -⟩ :=
      a.exists_run_crawlLevel hlevel hnone (s.record (.depth depth))
        ((a.fetcher.announceDepth depth).run env).2
    rw [s.visits_record_depth] at hvisits
    exact ⟨s', env', pages, [], a.run_crawlFrom_zero hrun, hprefix, hne,
      by rw [hvisits, List.append_nil], by simp⟩
  | succ deeper ih =>
    obtain ⟨s', links, env', pages, hrun, hprefix, hne, hvisits, hlinks⟩ :=
      a.exists_run_crawlLevel hlevel hnone (s.record (.depth depth))
        ((a.fetcher.announceDepth depth).run env).2
    rw [s.visits_record_depth] at hvisits
    obtain ⟨hqueued, hnext⟩ := s'.enqueue_visits links
    rw [a.run_crawlFrom_succ hrun]
    split
    · exact ⟨s', env', pages, [], rfl, hprefix, hne, by rw [hvisits, List.append_nil], by simp⟩
    · split
      · exact ⟨_, env', pages, [], rfl, hprefix, hne, by rw [hqueued, hvisits, List.append_nil], by simp⟩
      · obtain ⟨s'', env'', pages', below, hdeeper, hprefix', -, hvisits', hbelow⟩ :=
          ih (fun url hurl => hP url (hlinks url (hnext url hurl))) (s'.enqueue links).1 env'
        refine ⟨s'', env'', pages, pages' ++ below, hdeeper, hprefix, hne, ?_, ?_⟩
        · rw [hvisits', hqueued, hvisits, List.append_assoc]
        · intro page hpage
          rcases List.mem_append.1 hpage with hpage | hpage
          · exact hlinks _ (hnext _ (hprefix'.subset (List.mem_map_of_mem hpage)))
          · exact hbelow page hpage

/-- An analysis visits its start first, and after it only addresses with a property that the links of
the start have, and the links of each address that has it. -/
theorem exists_run_visits (a : Analyzer (StateM σ)) {address : String}
    (hstart : LeadsTo P (Address.normalize address)) (hP : ∀ url, P url → LeadsTo P url) (env : σ) :
    ∃ first rest, ((a.run address).run env).1.visits = first :: rest ∧
      first.url = Address.normalize address ∧ ∀ page ∈ rest, P page.url := by
  have hlevel : ∀ url ∈ [Address.normalize address], LeadsTo P url := by
    intro url hurl
    exact List.mem_singleton.1 hurl ▸ hstart
  obtain ⟨s, env', pages, below, hrun, hprefix, hne, hvisits, hbelow⟩ :=
    a.exists_run_crawlFrom hP hlevel (Session.start (Address.normalize address)) env
  obtain ⟨first, rest, rfl⟩ := List.exists_cons_of_ne_nil (hne (List.cons_ne_nil _ _))
  rw [List.map_cons, List.cons_prefix_cons, List.prefix_nil, List.map_eq_nil_iff] at hprefix
  obtain ⟨hfirst, rfl⟩ := hprefix
  refine ⟨first, below, ?_, hfirst, hbelow⟩
  rw [run, hrun, hvisits]
  rfl

end Analyzer

end SiteTech
