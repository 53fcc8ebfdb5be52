import SiteTech.Proofs.Http.Recorded

namespace SiteTech.Http.Network

/-- The answer to a request sends on to another one. -/
def SendsOn (n : Network Id) (r r' : Request) : Prop :=
  ∃ message target, (n.deliver r).run = .answered message ∧ message.target? r.url = some target ∧
    r' = ⟨bare target, r.userAgent⟩

/-- What follows on a request: nothing more is asked for, or the address that the answer sends on to. -/
private theorem exists_records_cons {α : Type} {n : Network Id} {r : Request} {hops : Nat}
    {f : Delivery → StateM (List Request) α}
    (hf : ∃ outcome rest, Records (f (n.deliver r).run) outcome rest ∧ rest.length ≤ hops ∧
      (r :: rest).IsChain n.SendsOn) :
    ∃ outcome rest, Records (n.recorded.deliver r >>= f) outcome (r :: rest) ∧ rest.length ≤ hops ∧
      (r :: rest).IsChain n.SendsOn := by
  obtain ⟨outcome, rest, hrest, hlength, hchain⟩ := hf
  have hdeliver : Records (n.recorded.deliver r) (n.deliver r).run [r] := fun _ => rfl
  exact ⟨outcome, rest, hdeliver.bind hrest, hlength, hchain⟩

private theorem records_follow_of_not_isWeb (n : Network Id) (userAgent : String) (hops : Nat) {shown : Url}
    (hweb : ¬(bare shown).isWeb = true) :
    Records (n.recorded.follow userAgent hops shown) (.error .failed, []) [] := by
  unfold follow
  dsimp only
  rw [if_pos (by simpa using hweb)]
  exact .pure _

/-- Asking for the address of a web page makes a request for it, and more only where answers send on to. -/
theorem exists_records_follow (n : Network Id) (userAgent : String) (hops : Nat) {shown : Url}
    (hweb : (bare shown).isWeb = true) :
    ∃ outcome rest, Records (n.recorded.follow userAgent hops shown) outcome
        (⟨bare shown, userAgent⟩ :: rest) ∧
      rest.length ≤ hops ∧ (⟨bare shown, userAgent⟩ :: rest).IsChain n.SendsOn := by
  have hstop (outcome : Outcome) : ∃ outcome' rest,
      Records (pure outcome : StateM (List Request) Outcome) outcome' rest ∧ rest.length ≤ hops ∧
        (⟨bare shown, userAgent⟩ :: rest).IsChain n.SendsOn :=
    ⟨outcome, [], .pure outcome, Nat.zero_le hops, .singleton _⟩
  unfold follow
  dsimp only
  rw [hweb]
  refine exists_records_cons ?_
  cases hdelivery : (n.deliver ⟨bare shown, userAgent⟩).run with
  | refused => exact hstop _
  | dropped => exact hstop _
  | silent => exact hstop _
  | answered message =>
    dsimp only
    split
    · exact hstop _
    · cases htarget : message.target? (bare shown) with
      | none => exact hstop _
      | some target =>
        cases hops with
        | zero => exact hstop _
        | succ hops =>
          -- The outcome names the request once more, which leaves the record as it is.
          have hnote {outcome : Outcome} {sent : List Request}
              (h : Records (n.recorded.follow userAgent hops target) outcome sent) :
              Records (n.recorded.follow userAgent hops target >>= fun next =>
                  pure (next.1, (⟨bare shown, userAgent⟩ :: next.2 : List Request)))
                (outcome.1, ⟨bare shown, userAgent⟩ :: outcome.2) sent := by
            rw [← List.append_nil sent]
            exact h.bind (.pure _)
          by_cases htargetWeb : (bare target).isWeb = true
          · obtain ⟨outcome, rest, hrest, hlength, hchain⟩ :=
              n.exists_records_follow userAgent hops htargetWeb
            have hsends : n.SendsOn ⟨bare shown, userAgent⟩ ⟨bare target, userAgent⟩ :=
              ⟨message, target, hdelivery, htarget, rfl⟩
            exact ⟨_, _, hnote hrest, Nat.succ_le_succ hlength, hchain.cons_cons hsends⟩
          · exact ⟨_, [], hnote (n.records_follow_of_not_isWeb userAgent hops htargetWeb),
              Nat.zero_le _, .singleton _⟩

/-- The requests for the address of a web page: the first one is for this address without the name of a
user, and each other one is where the answer to the one before sends on to. -/
theorem exists_requestsOf_eq (n : Network Id) (userAgent : String) {url : Url}
    (hweb : (bare url).isWeb = true) :
    ∃ rest, n.recorded.requestsOf userAgent url = ⟨bare url, userAgent⟩ :: rest ∧ rest.length ≤ maxHops ∧
      (⟨bare url, userAgent⟩ :: rest).IsChain n.SendsOn := by
  obtain ⟨outcome, rest, hrest, hlength, hchain⟩ := n.exists_records_follow userAgent maxHops hweb
  refine ⟨rest, ?_, hlength, hchain⟩
  rw [requestsOf, get, hrest []]
  rfl

end SiteTech.Http.Network
