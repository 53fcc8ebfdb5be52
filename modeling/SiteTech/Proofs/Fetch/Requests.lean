import SiteTech.Fetch.Web
import SiteTech.Proofs.Http.Recorded

namespace SiteTech

open Http (Network Request)

/-- The state with more requests that have reached a server. -/
def WebState.noting (s : WebState) (reached : List Request) : WebState :=
  { s with requests := s.requests ++ reached }

theorem WebState.noting_nil (s : WebState) : s.noting [] = s := by
  simp [noting]

theorem WebState.noting_noting (s : WebState) (reached more : List Request) :
    (s.noting reached).noting more = s.noting (reached ++ more) := by
  simp [noting]

/-- A program gives an answer and sends requests that do not depend on what is known, and all that it
changes is the list of the requests that have reached a server. -/
def Asks {α : Type} (x : StateT WebState (StateM (List Request)) α) (a : α)
    (reached sent : List Request) : Prop :=
  ∀ s, Records (x.run s) (a, s.noting reached) sent

namespace Asks

variable {α β : Type} {a : α} {b : β} {reached sent more moreSent : List Request}

theorem pure (a : α) : Asks (Pure.pure a) a [] [] := by
  intro s
  rw [s.noting_nil]
  exact Records.pure (a, s)

theorem bind {x : StateT WebState (StateM (List Request)) α}
    {f : α → StateT WebState (StateM (List Request)) β} (hx : Asks x a reached sent)
    (hf : Asks (f a) b more moreSent) : Asks (x >>= f) b (reached ++ more) (sent ++ moreSent) := by
  intro s
  rw [← s.noting_noting]
  exact (hx s).bind_run (hf (s.noting reached))

/-- What is done with an answer without sending anything. -/
theorem bind_silent {x : StateT WebState (StateM (List Request)) α}
    {f : α → StateT WebState (StateM (List Request)) β} (hx : Asks x a reached sent)
    (hf : Asks (f a) b [] []) : Asks (x >>= f) b reached sent := by
  have hbind := hx.bind hf
  rwa [List.append_nil, List.append_nil] at hbind

theorem lift {x : StateM (List Request) α} (hx : Records x a sent) : Asks (monadLift x) a [] sent := by
  intro s
  rw [s.noting_nil, StateT.run_monadLift, ← List.append_nil sent]
  exact hx.bind (Records.pure (a, s))

end Asks

/-- What a program answers when nothing is known. -/
def answerOf {α : Type} (x : StateT WebState (StateM (List Request)) α) : α := ((x.run .start).run []).1.1

/-- What a program sends when nothing is known. -/
def sentBy {α : Type} (x : StateT WebState (StateM (List Request)) α) : List Request :=
  ((x.run .start).run []).2

theorem Asks.of_exists {α : Type} {x : StateT WebState (StateM (List Request)) α}
    (h : ∃ a reached sent, Asks x a reached sent) :
    ∃ reached, Asks x (answerOf x) reached (sentBy x) := by
  obtain ⟨a, reached, sent, hx⟩ := h
  refine ⟨reached, ?_⟩
  rw [answerOf, sentBy, hx .start []]
  exact hx

namespace WebFetcher

section

variable {m : Type → Type} [Monad m]

/-- Fetching a page that may be fetched. -/
def fetchPage (f : WebFetcher m) (address : String) (url : Url) :
    StateT WebState m (Except Error Evidence) := do
  match ← f.request url with
  | .error .failed => return .error .http
  | .error .timedOut => return .error (.fetch (.requestTimeout address))
  | .ok answer => f.readAnswer address answer

/-- Fetching a page if the file for robots lets us. -/
def fetchIf (f : WebFetcher m) (allowed : Bool) (address : String) (url : Url) :
    StateT WebState m (Except Error Evidence) :=
  if allowed then f.fetchPage address url else return .error (.fetch (.forbiddenByRobots address))

theorem scrape_eq (f : WebFetcher m) (address : String) :
    f.scrape address = (do
      if !(← get).ready then return .error (.fetch .notInitialised)
      else
        match Url.ofText address with
        | .error fault => return .error (.invalidUrl (address ++ "：" ++ fault.message))
        | .ok url =>
          let allowed ← if 0 < (← get).depth then f.isAllowed url else pure true
          f.fetchIf allowed address url) := rfl

end

variable {f : WebFetcher (StateM (List Request))} (hf : f.network.Steady)

include hf

theorem asks_request (url : Url) :
    Asks (f.request url) (f.network.outcomeOf f.config.userAgent url).1
      (f.network.outcomeOf f.config.userAgent url).2
      (f.network.requestsOf f.config.userAgent url) := by
  have hget := Asks.lift (hf.records_get f.config.userAgent url)
  have hnote (outcome : Http.Outcome) : Asks (do
      modify fun s : WebState => { s with requests := s.requests ++ outcome.2 }
      return outcome.1) outcome.1 outcome.2 [] := by
    intro s
    exact Records.pure (outcome.1, s.noting outcome.2)
  rw [← List.nil_append (f.network.outcomeOf f.config.userAgent url).2,
    ← List.append_nil (f.network.requestsOf f.config.userAgent url)]
  exact hget.bind (hnote _)

theorem exists_asks_fetchText (address : String) :
    ∃ text reached sent, Asks (f.fetchText address) text reached sent := by
  unfold fetchText
  cases Url.ofText address with
  | error fault => exact ⟨_, _, _, .pure none⟩
  | ok url =>
    have hrequest := asks_request hf url
    dsimp only
    cases houtcome : (f.network.outcomeOf f.config.userAgent url).1 with
    | error fault =>
      rw [houtcome] at hrequest
      exact ⟨_, _, _, hrequest.bind_silent (.pure none)⟩
    | ok answer =>
      rw [houtcome] at hrequest
      refine ⟨if Http.isSuccess answer.message.status then answer.message.text.toOption else none, _, _,
        hrequest.bind_silent ?_⟩
      dsimp only
      split
      · exact .pure _
      · exact .pure _

/-- Reading an answer sends nothing. -/
theorem exists_asks_readAnswer (address : String) (answer : Http.Answer) :
    ∃ result, Asks (f.readAnswer address answer) result [] [] := by
  have hrecords (url : Url) : ∃ dns, Asks (f.records url) dns [] [] := by
    unfold records
    cases url.lookupDomain with
    | none => exact ⟨_, .pure Table.empty⟩
    | some domain =>
      dsimp only
      split
      · obtain ⟨found, hfound⟩ := hf.records domain
        exact ⟨found, .lift hfound⟩
      · exact ⟨_, .pure Table.empty⟩
  have hevidence (html : String) : ∃ e, Asks (f.evidence answer html) e [] [] := by
    obtain ⟨dns, hdns⟩ := hrecords answer.url
    exact ⟨_, hdns.bind_silent (.pure _)⟩
  unfold readAnswer
  dsimp only
  split
  · cases answer.message.text with
    | ok html =>
      obtain ⟨e, he⟩ := hevidence html
      exact ⟨_, he.bind_silent (.pure (Except.ok e))⟩
    | error fault =>
      cases fault with
      | unfinished =>
        dsimp only
        split
        · exact ⟨_, .pure _⟩
        · exact ⟨_, .pure _⟩
      | malformed => exact ⟨_, .pure _⟩
  · exact ⟨_, .pure _⟩

/-- All that fetching a page sends is what asking for its address sends. -/
theorem exists_asks_fetchPage (address : String) (url : Url) :
    ∃ result reached,
      Asks (f.fetchPage address url) result reached (f.network.requestsOf f.config.userAgent url) := by
  have hrequest := asks_request hf url
  cases houtcome : (f.network.outcomeOf f.config.userAgent url).1 with
  | error fault =>
    rw [houtcome] at hrequest
    cases fault with
    | failed => exact ⟨_, _, hrequest.bind_silent (.pure (Except.error Error.http))⟩
    | timedOut =>
      exact ⟨_, _, hrequest.bind_silent (.pure (Except.error (Error.fetch (.requestTimeout address))))⟩
  | ok answer =>
    rw [houtcome] at hrequest
    obtain ⟨result, hanswer⟩ := exists_asks_readAnswer hf address answer
    exact ⟨result, _, hrequest.bind_silent hanswer⟩

end WebFetcher

end SiteTech
