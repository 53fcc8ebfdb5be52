import SiteTech.Robots.Decision
import Mathlib.Data.List.Basic

namespace SiteTech.Robots

/-- Whether a name stands for one agent. -/
def namesAgent (agent name : List Char) : Bool :=
  !namesAll name && Text.sameAscii agent (productToken name)

/-- Whether a line has a name that passes a test. -/
def Directive.names (concerns : List Char → Bool) : Directive → Bool
  | .agent name => concerns name
  | _ => false

/-- The lines of a file that name no agents, each with the names of its group. The lines come after some names,
and perhaps after other lines of the group. -/
def addressed (names : List (List Char)) (hasLines : Bool) :
    List Directive → List (List (List Char) × Directive)
  | [] => []
  | .agent name :: rest => addressed (if hasLines then [name] else name :: names) false rest
  | line :: rest => (names, line) :: addressed names true rest

/-- The lines of the groups that have a name that passes a test, after some names and perhaps other lines. -/
def linesAfter (concerns : List Char → Bool) (names : List (List Char)) (hasLines : Bool)
    (lines : List Directive) : List Directive :=
  ((addressed names hasLines lines).filter fun line => line.1.any concerns).map Prod.snd

/-- The lines of the groups of a file that have a name that passes a test. -/
def linesOfGroups (concerns : List Char → Bool) (lines : List Directive) : List Directive :=
  linesAfter concerns [] false lines

/-- A verdict with one more line. -/
def Verdict.after (path : List Char) (v : Verdict) : Directive → Verdict
  | .allow pattern => { v with allowed := max v.allowed (allowLength path pattern) }
  | .disallow pattern => { v with forbidden := max v.forbidden (matchLength path pattern) }
  | _ => v

/-- The verdict of some lines on a path. -/
def verdictOf (path : List Char) (lines : List Directive) : Verdict :=
  lines.foldl (Verdict.after path) Verdict.none

section Lines

variable {concerns : List Char → Bool} {names : List (List Char)} {hasLines : Bool} {rest : List Directive}

theorem linesAfter_agent (name : List Char) :
    linesAfter concerns names hasLines (.agent name :: rest) =
      linesAfter concerns (if hasLines then [name] else name :: names) false rest := rfl

theorem linesAfter_cons {line : Directive} (h : ∀ name, line ≠ .agent name) :
    linesAfter concerns names hasLines (line :: rest) =
      if names.any concerns then line :: linesAfter concerns names true rest
      else linesAfter concerns names true rest := by
  have haddressed : addressed names hasLines (line :: rest) = (names, line) :: addressed names true rest := by
    cases line with
    | agent name => exact absurd rfl (h name)
    | _ => rfl
  rw [linesAfter, haddressed, List.filter_cons]
  split <;> rfl

/-- Without a name that passes the test there are no lines. -/
theorem linesAfter_eq_nil (hnames : names.any concerns = false)
    (hrest : rest.any (Directive.names concerns) = false) : linesAfter concerns names hasLines rest = [] := by
  induction rest generalizing names hasLines with
  | nil => rfl
  | cons line rest ih =>
    rw [List.any_cons, Bool.or_eq_false_iff] at hrest
    by_cases hagent : ∃ name, line = .agent name
    · obtain ⟨name, rfl⟩ := hagent
      have hname : concerns name = false := hrest.1
      rw [linesAfter_agent]
      refine ih ?_ hrest.2
      cases hasLines <;> simp_all
    · rw [linesAfter_cons (not_exists.1 hagent), hnames]
      exact ih hnames hrest.2

end Lines

namespace Reading

variable {agent path : List Char} {r : Reading}

/-- A name begins a new group if the present one has other lines, and belongs to the present group if not. -/
theorem addAgent_eq (name : List Char) :
    r.addAgent agent name =
      { r with
        inGeneral := !r.hasRules && r.inGeneral || namesAll name
        inSpecific := !r.hasRules && r.inSpecific || namesAgent agent name
        named := r.named || namesAgent agent name
        hasRules := false } := by
  obtain ⟨general, specific, inGeneral, inSpecific, named, hasRules⟩ := r
  unfold addAgent namesAgent
  cases hasRules <;> cases namesAll name <;> cases Text.sameAscii agent (productToken name) <;> simp

/-- A line that names no agent changes the verdict of the present group, which is one of the groups that name the
agent if it has the name of the agent and that of all agents. -/
theorem step_line (r : Reading) (agent path : List Char) {line : Directive}
    (h : ∀ name, line ≠ .agent name) :
    r.step agent path line =
      { r with
        specific := if r.inSpecific then r.specific.after path line else r.specific
        general := if !r.inSpecific && r.inGeneral then r.general.after path line else r.general
        hasRules := r.hasRules || r.concerns || line == .other } := by
  obtain ⟨general, specific, inGeneral, inSpecific, named, hasRules⟩ := r
  cases line with
  | agent name => exact absurd rfl (h name)
  | other => simp [step, Verdict.after]
  | allow pattern => cases inGeneral <;> cases inSpecific <;> simp [step, concerns, update, Verdict.after]
  | disallow pattern => cases inGeneral <;> cases inSpecific <;> simp [step, concerns, update, Verdict.after]

/-- What has been read tells which names the present group has. Whether it has other lines is only told if it
concerns the agent, but in the other case this does not matter. -/
structure Tracks (agent : List Char) (names : List (List Char)) (hasLines : Bool) (r : Reading) : Prop where
  general : r.inGeneral = names.any namesAll
  specific : r.inSpecific = names.any (namesAgent agent)
  begun : r.hasRules = true → hasLines = true
  seen : hasLines = true → r.hasRules = true ∨ r.concerns = false

namespace Tracks

variable {names : List (List Char)} {hasLines : Bool} (h : r.Tracks agent names hasLines)

include h

theorem addAgent (name : List Char) :
    (r.addAgent agent name).Tracks agent (if hasLines then [name] else name :: names) false := by
  rw [addAgent_eq]
  have hkept : (!r.hasRules && r.inGeneral) = (!hasLines && names.any namesAll) ∧
      (!r.hasRules && r.inSpecific) = (!hasLines && names.any (namesAgent agent)) := by
    rw [← h.general, ← h.specific]
    cases hlines : hasLines with
    | false =>
      have hrules : r.hasRules = false := by
        cases hrules : r.hasRules with
        | false => rfl
        | true => rw [h.begun hrules] at hlines; cases hlines
      simp [hrules]
    | true =>
      rcases h.seen hlines with hrules | hnone
      · simp [hrules]
      · rw [concerns, Bool.or_eq_false_iff] at hnone
        simp [hnone]
  constructor
  · rw [hkept.1]
    cases hasLines <;> simp [Bool.or_comm]
  · rw [hkept.2]
    cases hasLines <;> simp [Bool.or_comm]
  · exact fun hrules => by cases hrules
  · exact fun hlines => by cases hlines

theorem step_line {line : Directive} (hline : ∀ name, line ≠ .agent name) :
    (r.step agent path line).Tracks agent names true := by
  rw [Reading.step_line r agent path hline]
  refine ⟨h.general, h.specific, fun _ => rfl, fun _ => ?_⟩
  cases hconcerns : r.concerns with
  | true => exact .inl (by simp)
  | false => exact .inr hconcerns

end Tracks

/-- What is read of the lines of a file: the verdict of the groups that name the agent, whether there are any, and,
if there are none, the verdict of the groups for all agents. -/
theorem foldl_step {names : List (List Char)} {hasLines : Bool} (h : r.Tracks agent names hasLines)
    (path : List Char) (lines : List Directive) :
    (lines.foldl (step agent path) r).specific =
        (linesAfter (namesAgent agent) names hasLines lines).foldl (Verdict.after path) r.specific ∧
      (lines.foldl (step agent path) r).named =
        (r.named || lines.any (Directive.names (namesAgent agent))) ∧
      (r.inSpecific = false → lines.any (Directive.names (namesAgent agent)) = false →
        (lines.foldl (step agent path) r).general =
          (linesAfter namesAll names hasLines lines).foldl (Verdict.after path) r.general) := by
  induction lines generalizing r names hasLines with
  | nil => simp [linesAfter, addressed]
  | cons line lines ih =>
    rw [List.foldl_cons, List.any_cons]
    by_cases hagent : ∃ name, line = .agent name
    · obtain ⟨name, rfl⟩ := hagent
      obtain ⟨hspecific, hnamed, hgeneral⟩ := ih (h.addAgent name)
      rw [linesAfter_agent, linesAfter_agent, step, Directive.names]
      rw [addAgent_eq] at hspecific hnamed hgeneral ⊢
      refine ⟨hspecific, by rw [hnamed, Bool.or_assoc], fun hnone hothers => ?_⟩
      rw [Bool.or_eq_false_iff] at hothers
      exact hgeneral (by simp [hnone, hothers.1]) hothers.2
    · rw [not_exists] at hagent
      have htracks : (r.step agent path line).Tracks agent names true := h.step_line hagent
      obtain ⟨hspecific, hnamed, hgeneral⟩ := ih htracks
      have hno : line.names (namesAgent agent) = false := by
        cases line with
        | agent name => exact absurd rfl (hagent name)
        | _ => rfl
      have hline := r.step_line agent path hagent
      have hspecific' : (r.step agent path line).specific =
          if r.inSpecific then r.specific.after path line else r.specific :=
        congrArg Reading.specific hline
      have hgeneral' : (r.step agent path line).general =
          if !r.inSpecific && r.inGeneral then r.general.after path line else r.general :=
        congrArg Reading.general hline
      have hnamed' : (r.step agent path line).named = r.named := by rw [hline]
      have hnone' : (r.step agent path line).inSpecific = r.inSpecific := by rw [hline]
      rw [linesAfter_cons hagent, linesAfter_cons hagent, hno, Bool.false_or, ← h.specific, ← h.general]
      refine ⟨?_, by rw [hnamed, hnamed'], fun hnone hothers => ?_⟩
      · rw [hspecific, hspecific']
        cases r.inSpecific <;> rfl
      · rw [hgeneral (hnone'.trans hnone) hothers, hgeneral', hnone]
        cases r.inGeneral <;> rfl

end Reading

/-- Whether a file has a group that names an agent. -/
def isNamed (body agent : String) : Bool :=
  (Directive.ofBody body.toList).any (Directive.names (namesAgent agent.toList))

/-- What the groups of a file that have a name that passes a test say of an address. -/
def groupsAllow (concerns : List Char → Bool) (body url : String) : Bool :=
  (verdictOf (pathOf url.toList) (linesOfGroups concerns (Directive.ofBody body.toList))).allows

theorem Verdict.allows_of_not_decides {v : Verdict} (h : v.decides = false) : v.allows = true := by
  simp only [decides, Bool.or_eq_false_iff, decide_eq_false_iff_not, Nat.not_lt, Nat.le_zero] at h
  simp [allows, h]

/-- The groups that name an agent decide, and those for all agents if there are none. -/
theorem allows_eq (body agent url : String) :
    allows body agent url =
      if isNamed body agent then groupsAllow (namesAgent agent.toList) body url
      else groupsAllow namesAll body url := by
  have hstart : Reading.start.Tracks agent.toList [] false :=
    ⟨rfl, rfl, fun h => h, fun h => by cases h⟩
  obtain ⟨hread, hnamed, hgeneral⟩ := Reading.foldl_step hstart (pathOf url.toList)
    (Directive.ofBody body.toList)
  rw [allows]
  generalize (Directive.ofBody body.toList).foldl (Reading.step agent.toList (pathOf url.toList))
    Reading.start = done at hread hnamed hgeneral ⊢
  have hspecific : groupsAllow (namesAgent agent.toList) body url = done.specific.allows :=
    congrArg Verdict.allows hread.symm
  have hnamed : done.named = isNamed body agent := hnamed
  rw [Reading.allows, hnamed, hspecific]
  cases hagent : isNamed body agent with
  | true =>
    cases hdecides : done.specific.decides with
    | true => simp only [if_true]
    | false => simp only [Bool.false_eq_true, if_true, if_false, Verdict.allows_of_not_decides hdecides]
  | false =>
    have hgeneral : groupsAllow namesAll body url = done.general.allows :=
      congrArg Verdict.allows (hgeneral rfl hagent).symm
    have hundecided : done.specific.decides = false := by
      rw [hread, linesAfter_eq_nil rfl hagent]
      rfl
    simp only [hundecided, hgeneral, Bool.false_eq_true, if_false]

end SiteTech.Robots
