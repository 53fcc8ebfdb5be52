import SiteTech.Proofs.Detection.Exclusion
import SiteTech.Proofs.Text.Utf8
import Mathlib.Data.List.DropRight
import Mathlib.Data.List.Induction

namespace SiteTech

/-- A call that changes a store. -/
inductive StoreCall where
  | add (h : Hit)
  | remove (name : String)

namespace StoreCall

/-- The name that a call is about. -/
def name : StoreCall → String
  | add h => h.technology.name
  | remove name => name

/-- The sign that a call records of a name. -/
def signOf? (n : String) : StoreCall → Option Hit
  | add h => if h.technology.name = n then some h else none
  | remove _ => none

/-- Whether a call removes a name. -/
def removes (n : String) : StoreCall → Bool
  | add _ => false
  | remove name => name == n

/-- The signs of a name that are recorded after its last removal, in their order. -/
def signsSince (n : String) (calls : List StoreCall) : List Hit :=
  (calls.rtakeWhile fun call => !call.removes n).filterMap (signOf? n)

theorem signsSince_concat_add (n : String) (calls : List StoreCall) (h : Hit) :
    signsSince n (calls ++ [add h]) =
      if h.technology.name = n then signsSince n calls ++ [h] else signsSince n calls := by
  rw [signsSince, List.rtakeWhile_concat, if_pos (by rfl), List.filterMap_append, ← signsSince]
  by_cases hn : h.technology.name = n <;> simp [signOf?, hn]

theorem signsSince_concat_remove (n : String) (calls : List StoreCall) (name : String) :
    signsSince n (calls ++ [remove name]) = if name = n then [] else signsSince n calls := by
  rw [signsSince, List.rtakeWhile_concat]
  by_cases hn : name = n
  · simp [removes, hn]
  · rw [if_pos (by simpa [removes] using hn), List.filterMap_append, ← signsSince]
    simp [signOf?, hn]

theorem name_of_mem_signsSince {n : String} {calls : List StoreCall} {h : Hit}
    (hh : h ∈ signsSince n calls) : h.technology.name = n := by
  obtain ⟨call, -, hcall⟩ := List.mem_filterMap.1 hh
  cases call with
  | add h' =>
    rw [signOf?] at hcall
    split at hcall
    · cases hcall
      assumption
    · cases hcall
  | remove name => cases hcall

end StoreCall

open StoreCall

namespace Detection

/-- What is known of a technology sums up signs of it, in their order: the technology is that of the
first sign, the version the first one that is not empty, and the confidence the greatest. -/
structure IsSummaryOf (d : Detection) (hits : List Hit) : Prop where
  technology : hits.head?.map Hit.technology = some d.technology
  version : d.version = ((hits.map Hit.version).find? (· ≠ "")).getD ""
  confidence : IsGreatest {k | ∃ h ∈ hits, h.confidence = k} d.confidence

theorem afterAll_concat (old : Option Detection) (hits : List Hit) (h : Hit) :
    afterAll old (hits ++ [h]) = some (after (afterAll old hits) h) := List.foldl_append

theorem merge_version (d : Detection) (h : Hit) :
    (d.merge h).version = if d.version = "" then h.version else d.version := by
  by_cases hd : d.version = "" <;> by_cases hh : h.version = "" <;> simp [merge, hd, hh]

/-- Later signs keep the technology, and give the first version that is not empty. -/
theorem exists_afterAll_some (d : Detection) (hits : List Hit) :
    ∃ d', afterAll (some d) hits = some d' ∧ d'.technology = d.technology ∧
      d'.version = ((d.version :: hits.map Hit.version).find? (· ≠ "")).getD "" := by
  induction hits generalizing d with
  | nil =>
    refine ⟨d, rfl, rfl, ?_⟩
    by_cases hd : d.version = "" <;> simp [hd]
  | cons h rest ih =>
    obtain ⟨d', hd', htechnology, hversion⟩ := ih (d.merge h)
    refine ⟨d', hd', htechnology, ?_⟩
    rw [hversion, merge_version]
    by_cases hd : d.version = "" <;> simp [hd]

/-- Signs that have been recorded where nothing was known are summed up. -/
theorem exists_afterAll_none {hits : List Hit} (hne : hits ≠ []) :
    ∃ d, afterAll none hits = some d ∧ d.IsSummaryOf hits := by
  cases hits with
  | nil => exact absurd rfl hne
  | cons h rest =>
    obtain ⟨d, hd, htechnology, hversion⟩ := exists_afterAll_some ⟨h.technology, h.version, h.confidence⟩ rest
    have hd' : afterAll none (h :: rest) = some d := hd
    refine ⟨d, hd', ⟨by simp [htechnology], hversion, ?_⟩⟩
    simpa using (sums_of_afterAll hd').isGreatest

end Detection

namespace DetectionStore

/-- A store after a call. -/
def perform (s : DetectionStore) : StoreCall → DetectionStore
  | .add h => s.add h
  | .remove name => (s.takeOut name).2

/-- A store after calls, in their order. -/
def performAll (s : DetectionStore) (calls : List StoreCall) : DetectionStore := calls.foldl perform s

theorem performAll_concat (s : DetectionStore) (calls : List StoreCall) (call : StoreCall) :
    s.performAll (calls ++ [call]) = (s.performAll calls).perform call := List.foldl_append

/-- A call leaves what is known under other names. -/
theorem get?_perform_of_ne (s : DetectionStore) {call : StoreCall} {n : String} (hne : call.name ≠ n) :
    (s.perform call).get? n = s.get? n := by
  cases call with
  | add h => exact s.get?_add_of_ne h hne.symm
  | remove name => exact (s.get?_remove name n).trans (if_neg hne)

/-- What is known under a name comes from the signs since its last removal. -/
theorem get?_performAll (calls : List StoreCall) (n : String) :
    (empty.performAll calls).get? n = Detection.afterAll none (signsSince n calls) := by
  induction calls using List.reverseRecOn with
  | nil => rfl
  | append_singleton calls call ih =>
    rw [performAll_concat]
    cases call with
    | add h =>
      rw [perform, get?_add, signsSince_concat_add, ih]
      split
      · exact (Detection.afterAll_concat none _ h).symm
      · rfl
    | remove name =>
      have hremove := (empty.performAll calls).get?_remove name n
      rw [perform, takeOut, hremove, signsSince_concat_remove, ih]
      split <;> rfl

theorem contains_performAll_iff (calls : List StoreCall) (n : String) :
    (empty.performAll calls).contains n = true ↔ ∃ h, h ∈ signsSince n calls := by
  have hcontains : (empty.performAll calls).contains n = ((empty.performAll calls).get? n).isSome := rfl
  rw [hcontains, get?_performAll, Detection.isSome_afterAll]
  simp

/-- A name is known with the summary of the signs since its last removal. -/
theorem exists_get?_performAll {calls : List StoreCall} {n : String}
    (hthere : (empty.performAll calls).contains n = true) :
    ∃ d, (empty.performAll calls).get? n = some d ∧ d.IsSummaryOf (signsSince n calls) := by
  obtain ⟨h, hh⟩ := (contains_performAll_iff calls n).1 hthere
  rw [get?_performAll]
  exact Detection.exists_afterAll_none (List.ne_nil_of_mem hh)

/-- Technologies are kept under their own names. -/
theorem name_of_get?_performAll {calls : List StoreCall} {n : String} {d : Detection}
    (hd : (empty.performAll calls).get? n = some d) : d.technology.name = n := by
  rw [get?_performAll] at hd
  exact Detection.name_afterAll (by simp) (fun h hh => name_of_mem_signsSince hh) hd

/-- The findings are those of what is known under the names, in the order of the names. -/
theorem findings_eq (s : DetectionStore) :
    s.findings = s.names.filterMap fun n => (s.get? n).map Detection.finding := by
  rw [findings, s.table.values_eq_filterMap_keys, List.map_filterMap]
  rfl

theorem map_name_findings_performAll (calls : List StoreCall) :
    (empty.performAll calls).findings.map Finding.name = (empty.performAll calls).names := by
  have hname : ∀ e ∈ (empty.performAll calls).table.entries, e.2.finding.name = e.1 := by
    intro e he
    exact name_of_get?_performAll ((Table.get?_eq_some_iff _).2 he)
  rw [findings, Table.values, names, Table.keys, List.map_map, List.map_map]
  exact List.map_congr_left hname

/-- After any calls on a store that was empty, a name is there exactly if a sign of it has been recorded
since its last removal, and what is known under it is the summary of those signs. A removal says whether
the name was there, and a call leaves what is known under other names. The names are listed once each, in
the order of their bytes, with as many of them as there are detections; the findings come in the same order
and are those of what is known under each name. -/
theorem calls_are_summed_up (calls : List StoreCall) :
    let s := empty.performAll calls
    (∀ n, (s.contains n = true ↔ ∃ h, h ∈ signsSince n calls) ∧
      (s.contains n = true → ∃ d, s.get? n = some d ∧ d.IsSummaryOf (signsSince n calls)) ∧
      (s.contains n = false → s.get? n = none) ∧
      ((s.takeOut n).1 = true ↔ ∃ h, h ∈ signsSince n calls) ∧
      ∀ call : StoreCall, call.name ≠ n → (s.perform call).get? n = s.get? n) ∧
    (∀ n, n ∈ s.names ↔ s.contains n = true) ∧
    s.names.Pairwise (fun m n => Text.encode m < Text.encode n) ∧
    s.size = s.names.length ∧ (s.isEmpty = true ↔ s.names = []) ∧
    s.findings = s.names.filterMap (fun n => (s.get? n).map Detection.finding) ∧
    s.findings.map Finding.name = s.names := by
  intro s
  refine ⟨fun n => ⟨contains_performAll_iff calls n, exists_get?_performAll, s.contains_eq_false_iff.1,
    contains_performAll_iff calls n, fun call hne => s.get?_perform_of_ne hne⟩, fun n => s.mem_names_iff,
    s.names_sorted.imp Text.encode_lt_encode, ?_, ?_, s.findings_eq, map_name_findings_performAll calls⟩
  · exact (List.length_map _).symm
  · rw [isEmpty, Table.isEmpty, List.isEmpty_iff, names, Table.keys, List.map_eq_nil_iff]

/-- WordPress is found, dropped and found again by three signs. -/
def wordPressCalls : List StoreCall :=
  (sampleCatalog.get? "WordPress").elim [] fun t =>
    [.add ⟨t, "5.9", 100⟩, .remove "WordPress", .add ⟨t, "", 40⟩, .add ⟨t, "6.1", 70⟩, .add ⟨t, "6.2", 60⟩]

/-- What was known before the removal plays no part. -/
theorem wordPress_is_found_again :
    (empty.performAll wordPressCalls).contains "WordPress" = true ∧
      ∃ d, (empty.performAll wordPressCalls).get? "WordPress" = some d ∧ d.version = "6.1" := by
  have hthere : (empty.performAll wordPressCalls).contains "WordPress" = true := by decide
  obtain ⟨d, hd, hsummary⟩ := ((calls_are_summed_up wordPressCalls).1 "WordPress").2.1 hthere
  exact ⟨hthere, d, hd, hsummary.version.trans (by decide)⟩

end DetectionStore

end SiteTech
