import SiteTech.Crawl.Session
import Mathlib.Data.List.Basic
import Mathlib.Data.List.Induction
import Mathlib.Data.List.Nodup
import Mathlib.Data.Nat.Init

namespace SiteTech

/-- Links that are added one by one are there once each, in the order in which they come first. -/
theorem Link.foldl_addNew (links : List String) : links.foldl Link.addNew [] = links.eraseDups := by
  induction links using List.reverseRecOn with
  | nil => rfl
  | append_singleton links link ih =>
    rw [List.foldl_append, ih, List.eraseDups_append]
    by_cases hmem : link ∈ links <;> simp [Link.addNew, List.removeAll, List.eraseDups_cons, hmem]

theorem Link.mem_foldl_addNew {links found : List String} {link : String} :
    link ∈ links.foldl Link.addNew found ↔ link ∈ found ∨ link ∈ links := by
  induction links generalizing found with
  | nil => simp
  | cons first links ih =>
    rw [List.foldl_cons, ih, Link.addNew]
    split <;> grind

private theorem nodup_foldl_addNew {links found : List String} (hfound : found.Nodup) :
    (links.foldl Link.addNew found).Nodup := by
  induction links generalizing found with
  | nil => exact hfound
  | cons first links ih =>
    rw [List.foldl_cons]
    apply ih
    by_cases hmem : first ∈ found
    · simpa [Link.addNew, hmem] using hfound
    · simp only [Link.addNew, List.contains_eq_mem, hmem, decide_false, Bool.false_eq_true, if_false]
      exact hfound.append (List.nodup_singleton first) (List.disjoint_singleton.2 hmem)

theorem nodup_eraseDups (links : List String) : links.eraseDups.Nodup := by
  rw [← Link.foldl_addNew]
  exact nodup_foldl_addNew List.nodup_nil

/-- The next level consists of the links that are not known yet, if no link is given twice. -/
theorem Session.enqueue_eq {links : List String} (hnodup : links.Nodup) (s : Session) :
    s.enqueue links =
      ({ s with known := (links.filter (· ∉ s.known)).reverse ++ s.known },
        links.filter (· ∉ s.known)) := by
  induction links generalizing s with
  | nil => rfl
  | cons link links ih =>
    obtain ⟨hlink, hnodup⟩ := List.nodup_cons.1 hnodup
    by_cases hknown : link ∈ s.known
    · simp [enqueue, hknown, ih hnodup]
    · have hsame : (links.filter fun l => l ∉ link :: s.known) = links.filter (· ∉ s.known) := by
        refine List.filter_congr fun l hl => ?_
        have hne : l ≠ link := fun heq => hlink (heq ▸ hl)
        simp [hne]
      simp only [enqueue, List.contains_eq_mem, hknown, decide_false, Bool.false_eq_true, if_false,
        ih hnodup, hsame]
      simp [hknown]

section Levels

variable (links : String → List String) (start : String)

/-- The addresses above a level, level by level, and the addresses of the level: those that the links
of the level right above it lead to, in the order in which they come first, without the ones above. -/
def upperAndLevel : Nat → List String × List String
  | 0 => ([], [start])
  | d + 1 =>
    let (upper, level) := upperAndLevel d
    (upper ++ level, (level.flatMap links).eraseDups.filter (· ∉ upper ++ level))

/-- The addresses of a level. -/
def level (d : Nat) : List String := (upperAndLevel links start d).2

/-- The addresses of the first levels, level by level. -/
def firstLevels (n : Nat) : List String := (List.range n).flatMap (level links start)

theorem firstLevels_succ (n : Nat) :
    firstLevels links start (n + 1) = firstLevels links start n ++ level links start n := by
  simp [firstLevels, List.range_succ]

private theorem upper_eq (d : Nat) : (upperAndLevel links start d).1 = firstLevels links start d := by
  induction d with
  | zero => rfl
  | succ d ih => rw [firstLevels_succ, ← ih, upperAndLevel, level]

/-- A level has the addresses that the level above it leads to and that are not there yet. -/
theorem level_succ (d : Nat) :
    level links start (d + 1) =
      ((level links start d).flatMap links).eraseDups.filter
        (· ∉ firstLevels links start (d + 1)) := by
  rw [firstLevels_succ, ← upper_eq, level, upperAndLevel, level]

theorem nodup_firstLevels (n : Nat) : (firstLevels links start n).Nodup := by
  induction n with
  | zero => exact List.nodup_nil
  | succ n ih =>
    rw [firstLevels_succ]
    cases n with
    | zero => exact List.nodup_singleton start
    | succ n =>
      rw [level_succ]
      refine ih.append ((nodup_eraseDups _).filter _) fun u hupper hu => ?_
      exact of_decide_eq_true (List.mem_filter.1 hu).2 hupper

/-- No level follows on a level without addresses. -/
theorem level_eq_nil_of_le {d e : Nat} (hde : d ≤ e) (hd : level links start d = []) :
    level links start e = [] := by
  induction e, hde using Nat.le_induction with
  | base => exact hd
  | succ e _ ih => simp [level_succ, ih]

theorem firstLevels_eq_of_level_eq_nil {d e : Nat} (hde : d ≤ e) (hd : level links start d = []) :
    firstLevels links start e = firstLevels links start d := by
  induction e, hde using Nat.le_induction with
  | base => rfl
  | succ e hle ih => rw [firstLevels_succ, ih, level_eq_nil_of_le links start hle hd, List.append_nil]

theorem firstLevels_prefix {d e : Nat} (hde : d ≤ e) :
    firstLevels links start d <+: firstLevels links start e := by
  induction e, hde using Nat.le_induction with
  | base => exact List.prefix_rfl
  | succ e _ ih =>
    rw [firstLevels_succ]
    exact ih.trans (List.prefix_append _ _)

/-- Levels that are not reached any more do not count if a limit ends before them. -/
theorem take_firstLevels_of_le {d e limit : Nat} (hde : d ≤ e)
    (hlimit : limit ≤ (firstLevels links start d).length) :
    (firstLevels links start e).take limit = (firstLevels links start d).take limit := by
  obtain ⟨rest, hrest⟩ := firstLevels_prefix links start hde
  rw [← hrest, List.take_append_of_le_length hlimit]

/-- If there is room for an address of a level, then the last address within the limit is one of it. -/
theorem getLast?_take_firstLevels {d limit : Nat} (hd : level links start d ≠ [])
    (hroom : (firstLevels links start d).length < limit) :
    ∃ url, ((firstLevels links start (d + 1)).take limit).getLast? = some url ∧
      url ∈ level links start d := by
  have htaken : (level links start d).take (limit - (firstLevels links start d).length) ≠ [] := by
    rw [Ne, List.take_eq_nil_iff, not_or]
    exact ⟨by omega, hd⟩
  rw [firstLevels_succ, List.take_append, List.getLast?_append_of_ne_nil _ htaken,
    List.getLast?_eq_some_getLast htaken]
  exact ⟨_, rfl, List.mem_of_mem_take (List.getLast_mem htaken)⟩

end Levels

end SiteTech
