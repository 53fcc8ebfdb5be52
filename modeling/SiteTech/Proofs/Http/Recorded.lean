import SiteTech.Http.Network
import Mathlib.Data.List.Basic

namespace SiteTech

/-- A program gives an answer and puts entries to a record, whatever is in the record before. -/
def Records {ρ α : Type} (x : StateM (List ρ) α) (a : α) (added : List ρ) : Prop :=
  ∀ before, x.run before = (a, before ++ added)

namespace Records

variable {ρ α β : Type}

theorem pure (a : α) : Records (Pure.pure a : StateM (List ρ) α) a [] := by
  intro before
  rw [List.append_nil]
  rfl

theorem bind {x : StateM (List ρ) α} {f : α → StateM (List ρ) β} {a : α} {b : β}
    {added more : List ρ} (hx : Records x a added) (hf : Records (f a) b more) :
    Records (x >>= f) b (added ++ more) := by
  intro before
  rw [StateT.run_bind, hx before]
  exact (hf (before ++ added)).trans (by rw [List.append_assoc])

/-- Two programs one after the other that also have a state. -/
theorem bind_run {σ : Type} {x : StateT σ (StateM (List ρ)) α} {f : α → StateT σ (StateM (List ρ)) β}
    {s s' : σ} {a : α} {b : β × σ} {added more : List ρ} (hx : Records (x.run s) (a, s') added)
    (hf : Records ((f a).run s') b more) : Records ((x >>= f).run s) b (added ++ more) := by
  rw [StateT.run_bind]
  exact hx.bind hf

theorem exists_bind {x : StateM (List ρ) α} {f : α → StateM (List ρ) β} {a : α} {added : List ρ}
    (hx : Records x a added) (hf : ∃ b more, Records (f a) b more) :
    ∃ b more, Records (x >>= f) b more := by
  obtain ⟨b, more, hf⟩ := hf
  exact ⟨b, added ++ more, hx.bind hf⟩

/-- A program that records is known by what it does with an empty record. -/
theorem of_exists {x : StateM (List ρ) α} (h : ∃ a added, Records x a added) :
    Records x (x.run []).1 (x.run []).2 := by
  obtain ⟨a, added, hx⟩ := h
  rw [hx []]
  exact hx

end Records

namespace Http.Network

/-- A network that answers as another one does, and records every request that it is given, also those
that reach no server. -/
def recorded (n : Network Id) : Network (StateM (List Request)) :=
  { deliver := fun request => do
      modify fun before => before ++ [request]
      return (n.deliver request).run
    records := fun domain => return (n.records domain).run }

/-- What a network answers does not depend on what has been recorded. -/
structure Steady (n : Network (StateM (List Request))) : Prop where
  deliver : ∀ request, ∃ delivery added, Records (n.deliver request) delivery added
  records : ∀ domain, ∃ found, Records (n.records domain) found []

theorem steady_recorded (n : Network Id) : n.recorded.Steady where
  deliver request := ⟨(n.deliver request).run, [request], fun _ => rfl⟩
  records domain := ⟨(n.records domain).run, .pure _⟩

variable {n : Network (StateM (List Request))}

/-- Following where answers send on gives one outcome, whatever has been recorded. -/
theorem Steady.exists_records_follow (h : n.Steady) (userAgent : String) (hops : Nat) (url : Url) :
    ∃ outcome added, Records (n.follow userAgent hops url) outcome added := by
  unfold follow
  dsimp only
  split
  · exact ⟨_, _, .pure _⟩
  · obtain ⟨delivery, added, hdeliver⟩ := h.deliver ⟨bare url, userAgent⟩
    refine Records.exists_bind hdeliver ?_
    cases delivery with
    | refused => exact ⟨_, _, .pure _⟩
    | dropped => exact ⟨_, _, .pure _⟩
    | silent => exact ⟨_, _, .pure _⟩
    | answered message =>
      dsimp only
      split
      · exact ⟨_, _, .pure _⟩
      · cases message.target? (bare url) with
        | none => exact ⟨_, _, .pure _⟩
        | some target =>
          cases hops with
          | zero => exact ⟨_, _, .pure _⟩
          | succ hops =>
            obtain ⟨outcome, added, hfollow⟩ := h.exists_records_follow userAgent hops target
            exact Records.exists_bind hfollow ⟨_, _, .pure _⟩

/-- What becomes of asking for an address. -/
def outcomeOf (n : Network (StateM (List Request))) (userAgent : String) (url : Url) : Outcome :=
  ((n.get userAgent url).run []).1

/-- All requests that asking for an address gives to the network, also those that reach no server. -/
def requestsOf (n : Network (StateM (List Request))) (userAgent : String) (url : Url) : List Request :=
  ((n.get userAgent url).run []).2

theorem Steady.records_get (h : n.Steady) (userAgent : String) (url : Url) :
    Records (n.get userAgent url) (n.outcomeOf userAgent url) (n.requestsOf userAgent url) :=
  .of_exists (h.exists_records_follow userAgent maxHops url)

end Http.Network

end SiteTech
