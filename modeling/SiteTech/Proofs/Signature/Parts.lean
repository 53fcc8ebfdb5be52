import SiteTech.Signature.Pattern
import SiteTech.Proofs.Text.Pieces
import Mathlib.Data.List.Infix

namespace SiteTech.Pattern

/-- The version template that a modifier gives. -/
def templateOf? (modifier : List Char) : Option String :=
  (modifier.dropPrefix? "version:".toList).map String.ofList

/-- The confidence that a modifier gives, if it is a number of 32 bits with blanks around it. -/
def confidenceOf? (modifier : List Char) : Option UInt32 :=
  (modifier.dropPrefix? "confidence:".toList).bind fun value => Text.readUInt32 (Text.trimList value)

/-- What a modifier has after a name and a colon is what it has after its first colon, if the name stands
before this colon. -/
private theorem dropPrefix?_eq {name : List Char} (hname : ':' ∉ name) (modifier : List Char) :
    modifier.dropPrefix? (name ++ [':']) =
      (Text.splitOnce ':' modifier).bind fun parts => if parts.1 = name then some parts.2 else none := by
  ext value
  have hsplit : modifier.dropPrefix? (name ++ [':']) = some value ↔
      Text.splitOnce ':' modifier = some (name, value) := by
    rw [List.dropPrefix?_eq_some_iff, Text.splitOnce_eq_some_iff]
    constructor
    · rintro ⟨front, rfl, hfront⟩
      rw [beq_iff_eq.1 hfront]
      exact ⟨by simp, hname⟩
    · rintro ⟨rfl, -⟩
      exact ⟨name ++ [':'], by simp, beq_self_eq_true _⟩
  rw [hsplit]
  cases Text.splitOnce ':' modifier with
  | none => simp
  | some parts =>
    obtain ⟨first, rest⟩ := parts
    by_cases heq : first = name <;> simp [heq]

private theorem version_eq : "version:".toList = "version".toList ++ [':'] := rfl

private theorem confidence_eq : "confidence:".toList = "confidence".toList ++ [':'] := rfl

/-- A modifier changes the template or the confidence to what it gives, and nothing else. -/
theorem modify_eq (p : Pattern) (modifier : List Char) :
    p.modify modifier = { p with
      template := (templateOf? modifier).getD p.template
      confidence := (confidenceOf? modifier).getD p.confidence } := by
  have hnames : "version".toList ≠ "confidence".toList := by decide
  rw [templateOf?, confidenceOf?, version_eq, confidence_eq, dropPrefix?_eq (by decide), dropPrefix?_eq (by decide),
    modify]
  cases Text.splitOnce ':' modifier with
  | none => rfl
  | some parts =>
    obtain ⟨name, value⟩ := parts
    dsimp only [Option.bind_some]
    by_cases hversion : name = "version".toList
    · have hconfidence : name ≠ "confidence".toList := hversion ▸ hnames
      simp only [if_pos hversion, if_neg hconfidence]
      rfl
    · by_cases hconfidence : name = "confidence".toList
      · simp only [if_neg hversion, if_pos hconfidence, Option.bind_some]
        cases Text.readUInt32 (Text.trimList value) <;> rfl
      · simp only [if_neg hversion, if_neg hconfidence]
        rfl

private theorem getD_getLast?_filterMap_cons {α β : Type} (f : α → Option β) (a : α) (l : List α) (d : β) :
    ((a :: l).filterMap f).getLast?.getD d = (l.filterMap f).getLast?.getD ((f a).getD d) := by
  cases h : f a with
  | none => rw [List.filterMap_cons_none h, Option.getD_none]
  | some b => rw [List.filterMap_cons_some h, List.getLast?_cons, Option.getD_some, Option.getD_some]

/-- Of the modifiers the last one that gives a template counts, and the last one that gives a confidence. -/
theorem foldl_modify (p : Pattern) (modifiers : List (List Char)) :
    modifiers.foldl modify p = { p with
      template := (modifiers.filterMap templateOf?).getLast?.getD p.template
      confidence := (modifiers.filterMap confidenceOf?).getLast?.getD p.confidence } := by
  induction modifiers generalizing p with
  | nil => rfl
  | cons modifier rest ih =>
    rw [List.foldl_cons, ih, modify_eq, getD_getLast?_filterMap_cons, getD_getLast?_filterMap_cons]

theorem ofText_join {parts : List (List Char)} (hne : parts ≠ []) (h : ∀ part ∈ parts, ¬separator <:+: part) :
    ofText (String.ofList (Text.join separator parts)) = ofParts parts := by
  rw [ofText, String.toList_ofList, separator, Text.pieces_join (by decide) hne h]

theorem ofLiteral_eq (literal : List Char) :
    ofLiteral literal =
      { literal := String.ofList literal
        regex := if literal = [] then none else Regex.ofSource? true (String.ofList (unescape literal))
        template := ""
        confidence := 100 } := by
  cases literal <;> rfl

private theorem not_infix_append {front s : List Char} (hfront : '\\' ∉ front) (hs : ¬separator <:+: s) :
    ¬separator <:+: front ++ s := by
  induction front with
  | nil => exact hs
  | cons c front ih =>
    rw [List.cons_append, List.infix_cons_iff, not_or]
    refine ⟨fun hstart => ?_, ih fun hmem => hfront (List.mem_cons_of_mem _ hmem)⟩
    exact hfront ((List.cons_prefix_cons.1 hstart).1 ▸ List.mem_cons_self)

private theorem dropPrefix?_append (front s : List Char) : (front ++ s).dropPrefix? front = some s :=
  List.dropPrefix?_eq_some_iff.2 ⟨front, rfl, beq_self_eq_true front⟩

/-- A literal, a template and a confidence that are written as a signature are read back. -/
theorem ofText_written {literal template : String} (confidence : UInt32)
    (hliteral : ¬separator <:+: literal.toList) (htemplate : ¬separator <:+: template.toList) :
    ofText (literal ++ "\\;version:" ++ template ++ "\\;confidence:" ++
        String.ofList (Text.decimal confidence.toNat)) =
      { ofLiteral literal.toList with template := template, confidence := confidence } := by
  let version := "version:".toList ++ template.toList
  let certainty := "confidence:".toList ++ Text.decimal confidence.toNat
  have htext : literal ++ "\\;version:" ++ template ++ "\\;confidence:" ++
      String.ofList (Text.decimal confidence.toNat) =
      String.ofList (Text.join separator [literal.toList, version, certainty]) := by
    rw [← String.toList_inj]
    simp [Text.join, separator, version, certainty]
  have hparts : ∀ part ∈ [literal.toList, version, certainty], ¬separator <:+: part := by
    have hversion : ¬separator <:+: version := not_infix_append (by decide) htemplate
    have hcertainty : ¬separator <:+: certainty := by
      refine not_infix_append (by decide) fun hmid => ?_
      exact Text.notMem_decimal rfl _ (hmid.subset List.mem_cons_self)
    simp [hliteral, hversion, hcertainty]
  have hmade : ofParts [literal.toList, version, certainty] =
      ((ofLiteral literal.toList).modify version).modify certainty := rfl
  have hgiven : templateOf? version = some template ∧ confidenceOf? version = none ∧
      templateOf? certainty = none ∧ confidenceOf? certainty = some confidence := by
    refine ⟨?_, rfl, rfl, ?_⟩
    · rw [templateOf?, dropPrefix?_append, Option.map_some, String.ofList_toList]
    · rw [confidenceOf?, dropPrefix?_append, Option.bind_some, Text.trimList_decimal, Text.readUInt32_decimal]
  obtain ⟨htemplate', hconfidence, htemplate'', hconfidence'⟩ := hgiven
  rw [htext, ofText_join (List.cons_ne_nil _ _) hparts, hmade, modify_eq, modify_eq, htemplate', hconfidence,
    htemplate'', hconfidence']
  rfl

/-- A signature is read from its parts. Every text has parts in one way, so that a literal, a template and a
confidence are read as they were written. -/
theorem ofText_reads_parts :
    (∀ literal modifiers, (∀ part ∈ literal :: modifiers, ¬separator <:+: part) →
      ofText (String.ofList (Text.join separator (literal :: modifiers))) =
        { literal := String.ofList literal
          regex := if literal = [] then none else Regex.ofSource? true (String.ofList (unescape literal))
          template := (modifiers.filterMap templateOf?).getLast?.getD ""
          confidence := (modifiers.filterMap confidenceOf?).getLast?.getD 100 }) ∧
    (∀ raw : String, ∃! parts : List (List Char), parts ≠ [] ∧ (∀ part ∈ parts, ¬separator <:+: part) ∧
      String.ofList (Text.join separator parts) = raw) ∧
    ∀ (literal template : String) (confidence : UInt32),
      ¬separator <:+: literal.toList → ¬separator <:+: template.toList →
      let p := ofText (literal ++ "\\;version:" ++ template ++ "\\;confidence:" ++
        String.ofList (Text.decimal confidence.toNat))
      p.literal = literal ∧ p.template = template ∧ p.confidence = confidence := by
  refine ⟨fun literal modifiers h => ?_, fun raw => ?_, fun literal template confidence hliteral htemplate => ?_⟩
  · rw [ofText_join (List.cons_ne_nil _ _) h, ofParts, foldl_modify, ofLiteral_eq]
  · have htext : ∀ text, String.ofList text = raw ↔ text = raw.toList := fun text => by
      rw [← String.toList_inj, String.toList_ofList]
    simp only [htext]
    exact Text.existsUnique_parts (by decide) raw.toList
  · simp only [ofText_written confidence hliteral htemplate, ofLiteral_eq]
    simp

/-- A backslash before a separator and a semicolon after it stay with their parts. -/
theorem ofText_beside_separator :
    (∀ part ∈ ["a\\".toList, ";version:2".toList, "version:1:2".toList, "confidence: 40 ".toList],
      ¬separator <:+: part) ∧
    let p := ofText "a\\\\;;version:2\\;version:1:2\\;confidence: 40 "
    p.literal = "a\\" ∧ p.template = "1:2" ∧ p.confidence = 40 := by
  have hparts : ∀ part ∈ ["a\\".toList, ";version:2".toList, "version:1:2".toList, "confidence: 40 ".toList],
      ¬separator <:+: part := by decide
  have hread := ofText_reads_parts.1 _ _ hparts
  exact ⟨hparts, congrArg literal hread, congrArg template hread, congrArg confidence hread⟩

end SiteTech.Pattern
