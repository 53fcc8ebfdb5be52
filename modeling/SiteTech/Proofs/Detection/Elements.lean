import SiteTech.Detection.Channels
import SiteTech.Proofs.Detection.Store
import SiteTech.Proofs.Rules.Loading

namespace SiteTech

open Json (Value)
open Html (Document NodeId)

/-- The check of existence, written in long. -/
def DomRule.existence : Value := .object [("exists", .string "")]

/-- The modes of checks that can succeed on a document. -/
def DomMode.documentNames : List String := ["text", "exists", "attributes"]

namespace DomRule

/-- Leaves out the checks of one selector that have other modes than those that can succeed. -/
def documentChecks : Value → Value
  | .object modes => .object (modes.filter fun m => DomMode.documentNames.contains m.1)
  | v => v

/-- Leaves out all checks of other modes than those that can succeed. -/
def onDocument : Value → Value
  | .object selectors => .object (selectors.map fun e => (e.1, documentChecks e.2))
  | v => v

theorem ofValue_array (items : List Value) :
    ofValue (.array items) = (items.filterMap Value.string?).map presence := by
  rw [ofValue, List.map_filterMap]

theorem ofValue_array_strings (selectors : List String) :
    ofValue (.array (selectors.map .string)) = selectors.map presence := by
  have hstring : Value.string? ∘ Value.string = some := rfl
  rw [ofValue_array, List.filterMap_map, hstring, List.filterMap_some]

theorem ofChecks?_existence (selector : String) : ofChecks? selector existence = some (presence selector) := by
  rw [existence, ofChecks?]
  rfl

/-- The long form asks for the presence of each selector once, in the order of the selectors. -/
theorem ofValue_object_existence (selectors : List String) :
    ofValue (.object (selectors.map fun s => (s, existence))) =
      (Table.ofList (selectors.map fun s => (s, ()))).keys.map presence := by
  have htable : Value.table (selectors.map fun s => (s, existence)) =
      (Table.ofList (selectors.map fun s => (s, ()))).mapValues fun _ => existence := by
    rw [Table.mapValues_ofList, List.map_map]
    rfl
  generalize Table.ofList (selectors.map fun s => (s, ())) = names at htable ⊢
  rw [ofValue, htable, Table.mapValues, Table.toList, List.filterMap_map, Table.keys, List.map_map,
    ← List.filterMap_eq_map]
  exact List.filterMap_congr fun e _ => ofChecks?_existence e.1

end DomRule

namespace Technology

/-- The sign that the presence of an element gives. -/
def presenceHit (t : Technology) : Hit := ⟨t, "", Pattern.defaultConfidence⟩

variable {t : Technology} {d : Document}

theorem checkHits_presence (id : NodeId) :
    t.checkHits d id ⟨.exists, Table.empty.insert mainKey [Pattern.ofText ""]⟩ = [t.presenceHit] := by
  have hall : PatternTable.all (Table.empty.insert mainKey [Pattern.ofText ""]) = [⟨"", none, "", 100⟩] := rfl
  simp only [checkHits, hall]
  rfl

/-- Presence gives one sign if the selector finds an element. -/
theorem ruleHits_presence (selector : String) :
    t.ruleHits d (DomRule.presence selector) =
      if ((Selector.ofText? selector).bind fun s => s.first? d).isSome then [t.presenceHit] else [] := by
  rw [ruleHits, DomRule.presence]
  dsimp only
  cases (Selector.ofText? selector).bind fun s => s.first? d with
  | none => rfl
  | some id => simp [checkHits_presence]

/-- A check of another mode than those that can succeed on a document gives no sign. -/
theorem checkHits_of_not_onDocument {mode : String} {spec : Value} {check : DomCheck} (id : NodeId)
    (hmode : DomMode.documentNames.contains mode = false) (hcheck : DomRule.check? mode spec = some check) :
    t.checkHits d id check = [] := by
  obtain ⟨m, hm, rfl⟩ := Option.map_eq_some_iff.1 hcheck
  have hnames : ¬(mode = "text" ∨ mode = "exists" ∨ mode = "attributes") := by
    simpa [DomMode.documentNames] using hmode
  push Not at hnames
  obtain ⟨htext, hexists, hattributes⟩ := hnames
  rw [DomMode.ofName?, if_neg htext, if_neg hexists, if_neg hattributes] at hm
  split at hm
  · cases hm
    rfl
  · cases hm

/-- Members that give nothing may be left out. -/
private theorem flatMap_filterMap_filter {α β γ : Type} {p : α → Bool} {f : α → Option β} {g : β → List γ}
    (l : List α) (hnil : ∀ a b, p a = false → f a = some b → g b = []) :
    ((l.filter p).filterMap f).flatMap g = (l.filterMap f).flatMap g := by
  rw [List.filterMap_filter]
  simp only [List.filterMap_eq_flatMap_toList, List.flatMap_assoc]
  refine List.flatMap_congr fun a _ => ?_
  cases hp : p a with
  | true => rw [if_pos rfl]
  | false =>
    cases hf : f a with
    | none => rfl
    | some b => simp [hnil a b hp hf]

theorem ruleHits_documentChecks (selector : String) (modes : Value) :
    (DomRule.ofChecks? selector (DomRule.documentChecks modes)).toList.flatMap (t.ruleHits d) =
      (DomRule.ofChecks? selector modes).toList.flatMap (t.ruleHits d) := by
  cases modes with
  | object modes =>
    simp only [DomRule.documentChecks, DomRule.ofChecks?, Option.toList_some, List.flatMap_singleton, ruleHits]
    split
    · rfl
    · rename_i id _
      rw [Value.table, Table.ofList_filter fun m => DomMode.documentNames.contains m, Table.toList_restrict]
      exact flatMap_filterMap_filter _ fun m check hm hcheck => checkHits_of_not_onDocument id hm hcheck
  | _ => rfl

theorem flatMap_ruleHits_onDocument (v : Value) :
    (DomRule.ofValue (DomRule.onDocument v)).flatMap (t.ruleHits d) =
      (DomRule.ofValue v).flatMap (t.ruleHits d) := by
  cases v with
  | object selectors =>
    have htable : Value.table (selectors.map fun e => (e.1, DomRule.documentChecks e.2)) =
        (Value.table selectors).mapValues DomRule.documentChecks :=
      (Table.mapValues_ofList _ _).symm
    rw [DomRule.onDocument, DomRule.ofValue, DomRule.ofValue, htable, Table.mapValues, Table.toList,
      List.filterMap_map]
    simp only [List.filterMap_eq_flatMap_toList, List.flatMap_assoc]
    exact List.flatMap_congr fun e _ => ruleHits_documentChecks e.1 e.2
  | _ => rfl

end Technology

theorem Detection.after_after (old : Option Detection) (h : Hit) :
    Detection.after (some (Detection.after old h)) h = Detection.after old h := by
  cases old with
  | none => simp [after, merge]
  | some d =>
    by_cases hversion : (d.version.isEmpty && !h.version.isEmpty) = true <;>
      by_cases hconfidence : d.confidence < h.confidence <;> simp [after, merge, hversion, hconfidence]

namespace DetectionStore

/-- A sign that is recorded again changes nothing. -/
theorem add_add (s : DetectionStore) (h : Hit) : (s.add h).add h = s.add h := by
  refine ext_get? fun n => ?_
  rw [get?_add (s.add h), get?_add]
  split
  · rw [Detection.after_after]
  · rfl

/-- Of equal signs only the first one counts. -/
theorem addAll_of_forall_eq (s : DetectionStore) {h : Hit} {hits : List Hit} (hall : ∀ h' ∈ hits, h' = h) :
    s.addAll hits = if hits = [] then s else s.add h := by
  induction hits generalizing s with
  | nil => rfl
  | cons h' rest ih =>
    obtain ⟨rfl, hrest⟩ := List.forall_mem_cons.1 hall
    rw [addAll, List.foldl_cons, ← addAll, ih (s.add h') hrest, if_neg (List.cons_ne_nil _ _)]
    split
    · rfl
    · exact s.add_add h'

/-- The presence of elements is recorded the same for the same selectors, in whatever order and number. -/
theorem addAll_presence (s : DetectionStore) (t : Technology) (d : Document) {selectors names : List String}
    (hsame : ∀ n, n ∈ selectors ↔ n ∈ names) :
    s.addAll ((selectors.map DomRule.presence).flatMap (t.ruleHits d)) =
      s.addAll ((names.map DomRule.presence).flatMap (t.ruleHits d)) := by
  have hall (l : List String) : ∀ h ∈ (l.map DomRule.presence).flatMap (t.ruleHits d), h = t.presenceHit := by
    intro h hmem
    obtain ⟨rule, hrule, hh⟩ := List.mem_flatMap.1 hmem
    obtain ⟨selector, -, rfl⟩ := List.mem_map.1 hrule
    rw [Technology.ruleHits_presence] at hh
    split at hh
    · exact List.mem_singleton.1 hh
    · cases hh
  have hnil : (selectors.map DomRule.presence).flatMap (t.ruleHits d) = [] ↔
      (names.map DomRule.presence).flatMap (t.ruleHits d) = [] := by
    simp only [List.flatMap_eq_nil_iff, List.forall_mem_map, hsame]
  rw [s.addAll_of_forall_eq (hall selectors), s.addAll_of_forall_eq (hall names)]
  simp only [hnil]

end DetectionStore

/-- A technology with other rules on elements. -/
def Technology.withDom (t : Technology) (v : Value) : Technology := { t with dom := DomRule.ofValue v }

/-- A technology without its rules on elements. -/
def Technology.withoutDom (t : Technology) : Technology := { t with dom := [] }

/-- A detection without the rules on elements of its technology. -/
def Detection.withoutDom (d : Detection) : Detection := { d with technology := d.technology.withoutDom }

/-- A sign without the rules on elements of its technology. -/
def Hit.withoutDom (h : Hit) : Hit := { h with technology := h.technology.withoutDom }

/-- A store without the rules on elements of its technologies. -/
def DetectionStore.withoutDom (s : DetectionStore) : DetectionStore := ⟨s.table.mapValues Detection.withoutDom⟩

theorem Detection.withoutDom_after (old : Option Detection) (h : Hit) :
    (Detection.after old h).withoutDom = Detection.after (old.map Detection.withoutDom) h.withoutDom := by
  cases old <;> rfl

namespace DetectionStore

/-- Findings do not show the rules of technologies. -/
theorem findings_withoutDom (s : DetectionStore) : s.withoutDom.findings = s.findings := by
  rw [findings, withoutDom, Table.values_mapValues, List.map_map]
  rfl

theorem get?_withoutDom (s : DetectionStore) (n : String) :
    s.withoutDom.get? n = (s.get? n).map Detection.withoutDom := Table.get?_mapValues _ _ _

theorem withoutDom_add (s : DetectionStore) (h : Hit) :
    (s.add h).withoutDom = s.withoutDom.add h.withoutDom := by
  refine ext_get? fun n => ?_
  rw [get?_withoutDom, get?_add, get?_add, get?_withoutDom, ← Detection.withoutDom_after]
  exact apply_ite (Option.map Detection.withoutDom) _ _ _

theorem withoutDom_addAll (s : DetectionStore) (hits : List Hit) :
    (s.addAll hits).withoutDom = s.withoutDom.addAll (hits.map Hit.withoutDom) := by
  rw [addAll, addAll, List.foldl_map]
  exact (List.foldl_hom withoutDom fun s h => (s.withoutDom_add h).symm).symm

end DetectionStore

/-- The signs of a rule on elements depend on the technology only as its signs. -/
theorem Technology.ruleHits_withoutDom (t : Technology) (d : Document) (rule : DomRule) :
    (t.ruleHits d rule).map Hit.withoutDom = t.withoutDom.ruleHits d rule := by
  have hkeyed (patterns : PatternTable) (values : String → List String) :
      (t.keyedHits patterns values).map Hit.withoutDom = t.withoutDom.keyedHits patterns values := by
    simp only [keyedHits, List.map_flatMap, List.map_map]
    rfl
  have hvalue (patterns : List Pattern) (value : String) :
      (t.valueHits patterns value).map Hit.withoutDom = t.withoutDom.valueHits patterns value := by
    simp only [valueHits, List.map_map]
    rfl
  rw [ruleHits, ruleHits]
  split
  · rfl
  · rename_i id _
    rw [List.map_flatMap]
    refine List.flatMap_congr fun check _ => ?_
    obtain ⟨mode, patterns⟩ := check
    cases mode with
    | text => exact hvalue _ _
    | «exists» => exact hvalue _ _
    | attributes => exact hkeyed patterns fun name => ((d.element? id).bind fun e => e.attribute? name).toList
    | properties => rfl

/-- What a technology with given rules on elements leaves of a store after a look at a document. -/
theorem DetectionStore.withoutDom_addAll_domHits (s : DetectionStore) (t : Technology) (v : Value) (d : Document) :
    (s.addAll ((t.withDom v).domHits d)).withoutDom =
      s.withoutDom.addAll ((DomRule.ofValue v).flatMap (t.withoutDom.ruleHits d)) := by
  rw [withoutDom_addAll, Technology.domHits, List.map_flatMap]
  exact congrArg _ (List.flatMap_congr fun rule _ => (t.withDom v).ruleHits_withoutDom d rule)

/-- Two values for the rules of a technology mean the same: on every document the technology with the one and
the technology with the other leave the same of a store, except for these rules themselves. -/
def DomRule.Agree (v w : Value) : Prop :=
  ∀ (t : Technology) (d : Document) (s : DetectionStore),
    (s.addAll ((t.withDom v).domHits d)).withoutDom = (s.addAll ((t.withDom w).domHits d)).withoutDom

/-- Rules that mean the same give the same findings. -/
theorem DomRule.Agree.findings_eq {v w : Value} (h : DomRule.Agree v w) (t : Technology) (d : Document)
    (s : DetectionStore) :
    (s.addAll ((t.withDom v).domHits d)).findings = (s.addAll ((t.withDom w).domHits d)).findings := by
  rw [← DetectionStore.findings_withoutDom, h t d s, DetectionStore.findings_withoutDom]

theorem DomRule.agree_array_object (selectors : List String) :
    DomRule.Agree (.array (selectors.map .string)) (.object (selectors.map fun s => (s, DomRule.existence))) := by
  intro t d s
  rw [s.withoutDom_addAll_domHits, s.withoutDom_addAll_domHits, ofValue_array_strings, ofValue_object_existence]
  refine s.withoutDom.addAll_presence t.withoutDom d fun n => ?_
  rw [Table.mem_keys_iff, ← List.filterMap_eq_map, Table.contains_ofList_filterMap_iff]
  simp

theorem DomRule.agree_onDocument (v : Value) : DomRule.Agree v (DomRule.onDocument v) := by
  intro t d s
  rw [s.withoutDom_addAll_domHits, s.withoutDom_addAll_domHits, Technology.flatMap_ruleHits_onDocument]

/-- Rules in short mean what they mean in long: an array of selectors finds the same as an object that asks for
the existence of each, and a single selector gives the very rules of either form. Items of an array that are no
selectors do not count, and neither do checks of properties or of unknown modes. -/
theorem DomRule.short_forms_mean_long_form :
    (∀ selectors : List String, DomRule.Agree (.array (selectors.map .string))
      (.object (selectors.map fun s => (s, DomRule.existence)))) ∧
    (∀ selector, DomRule.ofValue (.string selector) = DomRule.ofValue (.array [.string selector]) ∧
      DomRule.ofValue (.string selector) = DomRule.ofValue (.object [(selector, DomRule.existence)])) ∧
    (∀ items : List Value, DomRule.ofValue (.array items) =
      DomRule.ofValue (.array (items.filter fun v => v.string?.isSome))) ∧
    ∀ v, DomRule.Agree v (DomRule.onDocument v) := by
  refine ⟨agree_array_object, fun selector => ⟨rfl, ?_⟩, fun items => ?_, agree_onDocument⟩
  · exact (ofValue_object_existence [selector]).symm
  · rw [ofValue_array, ofValue_array, List.filterMap_filter]
    refine congrArg _ (List.filterMap_congr fun v _ => ?_)
    cases v.string? <;> rfl

end SiteTech
