import SiteTech.Proofs.Json.Nesting
import SiteTech.Proofs.Json.Writing
import SiteTech.Proofs.Rules.Categories
import SiteTech.Proofs.Rules.Channels
import SiteTech.Proofs.Signature.Forms
import SiteTech.Proofs.Text.Utf8

namespace SiteTech

open Json (Raw Value)

/-- A technology is another one but for what it has in a channel. -/
structure Technology.AlikeBut (channel : Channel) (t t' : Technology) : Prop where
  data : t' = { t with channels := t'.channels }
  channels : ∀ other, other ≠ channel → t'.channels.get other = t.channels.get other

/-- A catalog is another one but for a channel of a technology, which has the signatures that a value
gives. -/
structure Catalog.ChangesChannel (name : String) (channel : Channel) (v : Value) (c c' : Catalog) : Prop where
  categories : c'.categories = c.categories
  others : ∀ other, other ≠ name → c'.get? other = c.get? other
  technology : ∃ t t', c.get? name = some t ∧ c'.get? name = some t' ∧ t.AlikeBut channel t' ∧
    (t'.channels.get channel).IsGivenBy v

/-- A technology without what it has of its categories. -/
def Technology.withoutCategories (t : Technology) : Technology := { t with categories := [] }

/-- A catalog without its categories. -/
def Catalog.withoutCategories (c : Catalog) : Catalog :=
  ⟨c.technologies.mapValues Technology.withoutCategories, Table.empty⟩

namespace Catalog

variable {library : RuleLibrary} {order order' : List (String × CategoryRule)} {c c' : Catalog} {name : String}
  {rule : TechRule} {channel : Channel} {v : Value}

theorem get?_withoutCategories (c : Catalog) (name : String) :
    c.withoutCategories.get? name = (c.get? name).map Technology.withoutCategories :=
  Table.get?_mapValues _ _ _

theorem ChangesChannel.withoutCategories (h : c.ChangesChannel name channel v c') :
    c.withoutCategories.ChangesChannel name channel v c'.withoutCategories where
  categories := rfl
  others other hother := by rw [get?_withoutCategories, get?_withoutCategories, h.others other hother]
  technology := by
    obtain ⟨t, t', hget, hget', halike, hgiven⟩ := h.technology
    refine ⟨t.withoutCategories, t'.withoutCategories, ?_, ?_, ⟨?_, halike.channels⟩, hgiven⟩
    · rw [get?_withoutCategories, hget, Option.map_some]
    · rw [get?_withoutCategories, hget', Option.map_some]
    · exact congrArg Technology.withoutCategories halike.data

/-- The order in which categories are enumerated has no part in anything else. -/
theorem withoutCategories_eq_of_ofLibraryIn (hload : ofLibraryIn order library = .ok c)
    (hload' : ofLibraryIn order' library = .ok c') : c.withoutCategories = c'.withoutCategories := by
  have hmade := madeOf_of_ofLibraryIn hload
  have hmade' := madeOf_of_ofLibraryIn hload'
  have hsame (name : String) : c.withoutCategories.get? name = c'.withoutCategories.get? name := by
    rw [get?_withoutCategories, get?_withoutCategories]
    cases hrule : library.technologies.get? name with
    | none =>
      have hnone {d : Catalog} {o : List _} (hd : d.MadeOf o library) : d.get? name = none := by
        refine Option.eq_none_iff_forall_ne_some.2 fun t ht => ?_
        obtain ⟨rule, hget, -⟩ := hd.get?_eq_some_iff.1 ht
        cases hrule.symm.trans hget
      rw [hnone hmade, hnone hmade']
    | some rule =>
      obtain ⟨t, hget, hok⟩ := hmade.exists_get? hrule
      obtain ⟨t', hget', hok'⟩ := hmade'.exists_get? hrule
      obtain ⟨cats, -, rfl⟩ := Technology.ofRule_eq_ok_iff.1 hok
      obtain ⟨cats', -, rfl⟩ := Technology.ofRule_eq_ok_iff.1 hok'
      rw [hget, hget']
      rfl
  exact congrArg (Catalog.mk · Table.empty) (Table.ext_get? hsame)

/-- Another rule with the same categories changes the technology alone. -/
theorem exists_ofLibraryIn_putRule (horder : library.Enumerates order) (hload : ofLibraryIn order library = .ok c)
    (hrule : library.technologies.get? name = some rule) (rule' : TechRule) (hcats : rule'.cats = rule.cats) :
    ∃ c' cats, ofLibraryIn order (library.putRule name rule') = .ok c' ∧ c'.categories = c.categories ∧
      (∀ other, other ≠ name → c'.get? other = c.get? other) ∧
      c.get? name = some (Technology.assemble name cats rule) ∧
      c'.get? name = some (Technology.assemble name cats rule') := by
  have hmade := madeOf_of_ofLibraryIn hload
  have hlibrary := hmade.wellFormed horder
  have hwellFormed : (library.putRule name rule').WellFormed :=
    { category := hlibrary.category
      technology := ⟨name, (Table.contains_iff _).2 ⟨rule', Table.get?_insert_self _ _ _⟩⟩
      cats := fun other otherRule hother id hid => by
        by_cases hname : other = name
        · rw [hname, RuleLibrary.putRule, Table.get?_insert_self, Option.some.injEq] at hother
          exact hlibrary.cats name rule hrule id (hcats ▸ hother ▸ hid)
        · rw [RuleLibrary.putRule, Table.get?_insert_of_ne _ _ hname] at hother
          exact hlibrary.cats other otherRule hother id hid }
  have horder' : (library.putRule name rule').Enumerates order := horder
  obtain ⟨c', hload'⟩ := exists_ofLibraryIn_of_wellFormed horder' hwellFormed
  have hmade' := madeOf_of_ofLibraryIn hload'
  -- The categories do not depend on the technologies, so the same numbers find the same categories.
  have hcategories : c'.categories = c.categories := by rw [hmade.categories, hmade'.categories]
  obtain ⟨t, hget, hok⟩ := hmade.exists_get? hrule
  obtain ⟨cats, hfound, rfl⟩ := Technology.ofRule_eq_ok_iff.1 hok
  refine ⟨c', cats, hload', hcategories, fun other hother => Option.ext fun t => ?_, hget, ?_⟩
  · rw [hmade.get?_eq_some_iff, hmade'.get?_eq_some_iff, hcategories, RuleLibrary.putRule,
      Table.get?_insert_of_ne _ _ hother]
  · refine hmade'.get?_eq_some_iff.2 ⟨rule', Table.get?_insert_self _ _ _, ?_⟩
    rw [hcategories, Technology.ofRule_eq_ok_iff, hcats]
    exact ⟨cats, hfound, rfl⟩

theorem alikeBut_putSpec (name : String) (cats : List Category) (rule : TechRule) (channel : Channel)
    (spec : Option Spec) :
    (Technology.assemble name cats rule).AlikeBut channel
      (Technology.assemble name cats (rule.putSpec channel spec)) where
  data := rfl
  channels other hother := by
    simp only [Technology.assemble, TechRule.putSpec, Channels.get_map, Channels.get_put_of_ne _ _ hother]

/-- Another description of a channel changes the channel alone. -/
theorem exists_changesChannel_putSpec (channel : Channel) (horder : library.Enumerates order)
    (hload : ofLibraryIn order library = .ok c) (hrule : library.technologies.get? name = some rule)
    {spec : Option Spec} (hspec : Spec.patternsOf spec = (Spec.ofValue v).patterns) :
    ∃ c', ofLibraryIn order (library.putRule name (rule.putSpec channel spec)) = .ok c' ∧
      c.ChangesChannel name channel v c' := by
  obtain ⟨c', cats, hload', hcategories, hothers, hget, hget'⟩ :=
    exists_ofLibraryIn_putRule horder hload hrule (rule.putSpec channel spec) rfl
  refine ⟨c', hload', hcategories, hothers, _, _, hget, hget', alikeBut_putSpec name cats rule channel spec, ?_⟩
  simp only [Technology.assemble, TechRule.putSpec, Channels.get_map, Channels.get_put_self, hspec]
  exact Spec.isGivenBy_ofValue v

end Catalog

theorem exists_readNullable_readSpec {v : Raw} {value : Value} (hvalue : v.value? fieldDepth = some value) :
    ∃ spec, readNullable readSpec v = some spec ∧ Spec.patternsOf spec = (Spec.ofValue value).patterns := by
  have hread : readSpec v = some (Spec.ofValue value) := by rw [readSpec, hvalue, Option.map_some]
  by_cases hnull : v = .null
  · -- Null is no description, and as a description it would be of no known form: both give no signatures.
    subst hnull
    rw [Raw.value?] at hvalue
    cases hvalue
    exact ⟨none, rfl, rfl⟩
  · refine ⟨some (Spec.ofValue value), ?_, rfl⟩
    rw [readNullable, hread, Option.map_some]
    exact hnull

theorem readNullable_readSpec_eq_none {v : Raw} (hvalue : v.value? fieldDepth = none) :
    readNullable readSpec v = none := by
  have hnull : v ≠ .null := by
    rintro rfl
    rw [Raw.value?] at hvalue
    cases hvalue
  rw [readNullable, readSpec, hvalue, Option.map_none, Option.map_none]
  exact hnull

namespace Catalog

/-- A document in the field of a channel that is not nested too deep gives the channel its signatures
and changes nothing else. Only the categories may be others, if they are enumerated in another order and
the library has two of them under one number. If it is nested deeper, or a number or a text in it has no
value, then the library is not decoded at all. -/
theorem changes_only_channel {old new : List UInt8} {before after v : Raw} {name : String} {channel : Channel}
    {library : RuleLibrary} {order : List (String × CategoryRule)} {c : Catalog}
    (hold : Raw.ofBytes? old = some before) (hnew : Raw.ofBytes? new = some after)
    (hput : RuleLibrary.PutsInTechnology name channel.field v before after)
    (hlibrary : RuleLibrary.ofBytes? old = some library) (horder : library.Enumerates order)
    (hload : ofLibraryIn order library = .ok c) :
    (∀ depth value, v.value? depth = some value → v.depth ≤ fieldDepth →
      ∃ library', RuleLibrary.ofBytes? new = some library' ∧
        ∀ order', library'.Enumerates order' → ∃ c', ofLibraryIn order' library' = .ok c' ∧
          c.withoutCategories.ChangesChannel name channel value c'.withoutCategories ∧
          (order' = order ∨ library.Unambiguous → c.ChangesChannel name channel value c')) ∧
      (fieldDepth < v.depth ∨ (∀ depth, v.value? depth = none) → RuleLibrary.ofBytes? new = none) := by
  rw [RuleLibrary.ofBytes?, hold, Option.bind_some] at hlibrary
  obtain ⟨rule, hrule, hread⟩ := RuleLibrary.ofRaw?_put hput hlibrary
  refine ⟨fun depth value hvalue hdepth => ?_, fun hunread => ?_⟩
  · obtain ⟨spec, hspec, hpatterns⟩ := exists_readNullable_readSpec ((Raw.value?_eq_some_iff hvalue).2 hdepth)
    obtain ⟨c₁, hload₁, hchanges⟩ := exists_changesChannel_putSpec channel horder hload hrule hpatterns
    refine ⟨library.putRule name (rule.putSpec channel spec), ?_, fun order' horder' => ?_⟩
    · rw [RuleLibrary.ofBytes?, hnew, Option.bind_some, hread, hspec, Option.map_some]
    obtain ⟨c', hload', -⟩ := exists_ofLibraryIn hload₁ horder horder'
    refine ⟨c', hload', ?_, ?_⟩
    · rw [← withoutCategories_eq_of_ofLibraryIn hload₁ hload']
      exact hchanges.withoutCategories
    · -- The new library has the categories of the old one, so it is as unambiguous.
      have hsame : order' = order ∨ library.Unambiguous →
          ofLibraryIn order' (library.putRule name (rule.putSpec channel spec)) =
            ofLibraryIn order (library.putRule name (rule.putSpec channel spec)) := by
        rintro (rfl | hunambiguous)
        · rfl
        · have hnew : (library.putRule name (rule.putSpec channel spec)).Unambiguous := hunambiguous
          exact ofLibraryIn_eq_of_unambiguous hnew horder' horder
      intro h
      cases (hload'.symm.trans (hsame h)).trans hload₁
      exact hchanges
  · have hnone : v.value? fieldDepth = none := hunread.elim Raw.value?_eq_none fun hnone => hnone fieldDepth
    rw [RuleLibrary.ofBytes?, hnew, Option.bind_some, hread, readNullable_readSpec_eq_none hnone,
      Option.map_none]

/-- A library of a server and a language, each with its category, as a document. The server has some
fields beside that of its category. -/
def serverDocument (fields : List (String × Value)) : Value :=
  .object [("categories", .object
      [("1", .object [("name", .string "Web servers")]), ("2", .object [("name", .string "Languages")])]),
    ("technologies", .object
      [("Nginx", .object (("cats", .array [.ofNat 1]) :: fields)),
       ("PHP", .object [("cats", .array [.ofNat 2]), ("cookies", .object [("PHPSESSID", .string "")])])])]

/-- The library whose server has no other fields. -/
def plainLibrary : RuleLibrary :=
  { categories := Table.ofList [("1", ⟨"Web servers", 0⟩), ("2", ⟨"Languages", 0⟩)]
    technologies := Table.ofList
      [("Nginx", { TechRule.bare with cats := [1] }),
       ("PHP", { TechRule.bare with
          cats := [2]
          channels := { TechRule.bare.channels with
            cookies := some (.keyed (Table.ofList [("PHPSESSID", .single "")])) } })] }

theorem putsInTechnology_serverDocument (channel : Channel) (v : Value) :
    RuleLibrary.PutsInTechnology "Nginx" channel.field (Raw.ofValue v) (Raw.ofValue (serverDocument []))
      (Raw.ofValue (serverDocument [(channel.field, v)])) := by
  have hfield : channel.field ∈ TechRule.fieldNames := by cases channel <;> decide
  have hnone : fieldOf [("cats", Raw.ofValue (.array [.ofNat 1]))] channel.field = none := by
    cases channel <;> rfl
  refine ⟨_, _, _, _, _, rfl, rfl, Raw.putsField_replace [(some "categories", _)] [] rfl (by decide),
    ⟨[], _, rfl, rfl, by decide⟩, ?_⟩
  exact Raw.putsField_append rfl hnone hfield

theorem ofBytes?_encode {s : List Char} (hascii : s.all (·.toNat < 128) = true) :
    Raw.ofBytes? (Text.encode (String.ofList s)) = Raw.ofSymbols? (s.map some) := by
  have hchars : ∀ c ∈ s, c.toNat < 128 := fun c hc => of_decide_eq_true (List.all_eq_true.1 hascii c hc)
  rw [Raw.ofBytes?, Text.encode_ofList hchars, Text.decode_map_ofNat hchars]

theorem ofBytes?_compactText {v : Value} (h : v.HasWholeNumbers)
    (hascii : v.compact.all (·.toNat < 128) = true) :
    Raw.ofBytes? (Text.encode v.compactText) = some (Raw.ofValue v) :=
  (ofBytes?_encode hascii).trans h.compact_written.ofSymbols?_eq

theorem serverDocument_hasWholeNumbers {fields : List (String × Value)}
    (h : ∀ m ∈ fields, m.2.HasWholeNumbers) : (serverDocument fields).HasWholeNumbers := by
  have hname (name : String) : Value.HasWholeNumbers (.object [("name", .string name)]) :=
    .object (List.forall_mem_singleton.2 (.string name))
  have hcats {n : Nat} (hn : n < UInt64.size) : Value.HasWholeNumbers (.array [.ofNat n]) :=
    .array (List.forall_mem_singleton.2 (.number hn))
  have hserver : Value.HasWholeNumbers (.object (("cats", .array [.ofNat 1]) :: fields)) :=
    .object (List.forall_mem_cons.2 ⟨hcats (by decide), h⟩)
  have hlanguage : Value.HasWholeNumbers
      (.object [("cats", .array [.ofNat 2]), ("cookies", .object [("PHPSESSID", .string "")])]) :=
    .object (List.forall_mem_cons.2 ⟨hcats (by decide),
      List.forall_mem_singleton.2 (.object (List.forall_mem_singleton.2 (.string "")))⟩)
  refine .object (List.forall_mem_cons.2 ⟨.object ?_, List.forall_mem_singleton.2 (.object ?_)⟩)
  · exact List.forall_mem_cons.2 ⟨hname _, List.forall_mem_singleton.2 (hname _)⟩
  · exact List.forall_mem_cons.2 ⟨hserver, List.forall_mem_singleton.2 hlanguage⟩

/-- The name of a server, and beside it something of a form that is not known. -/
def serverHeaders : Value :=
  .object [("Server", .string "nginx\\;version:\\1"), ("Via", .ofNat 5), ("X-Served-By", .array [])]

theorem serverHeaders_hasWholeNumbers : serverHeaders.HasWholeNumbers := by
  refine .object (List.forall_mem_cons.2 ⟨.string _, List.forall_mem_cons.2 ⟨.number (by decide), ?_⟩⟩)
  exact List.forall_mem_singleton.2 (.array (by simp))

/-- The headers of a server, put into a library that has none. In whatever order its categories come, the
language beside it stays as it is. -/
theorem serverHeaders_change_headers :
    ∃ c library', ofLibrary plainLibrary = .ok c ∧ (c.get? "PHP").isSome = true ∧
      RuleLibrary.ofBytes? (Text.encode (serverDocument [("headers", serverHeaders)]).compactText) =
        some library' ∧
      ∀ order', library'.Enumerates order' → ∃ c', ofLibraryIn order' library' = .ok c' ∧
        c.ChangesChannel "Nginx" .headers serverHeaders c' := by
  have hold : Raw.ofBytes? (Text.encode (serverDocument []).compactText) =
      some (Raw.ofValue (serverDocument [])) :=
    ofBytes?_compactText (serverDocument_hasWholeNumbers (by simp)) (by decide)
  have hnew := ofBytes?_compactText (v := serverDocument [("headers", serverHeaders)])
    (serverDocument_hasWholeNumbers (List.forall_mem_singleton.2 serverHeaders_hasWholeNumbers))
    (by decide)
  have hlibrary : RuleLibrary.ofBytes? (Text.encode (serverDocument []).compactText) = some plainLibrary := by
    rw [RuleLibrary.ofBytes?, hold]
    rfl
  obtain ⟨c, hload⟩ : ∃ c, ofLibrary plainLibrary = .ok c := ⟨_, rfl⟩
  obtain ⟨hread, -⟩ := changes_only_channel hold hnew (putsInTechnology_serverDocument .headers serverHeaders)
    hlibrary plainLibrary.enumerates_byKey hload
  obtain ⟨library', hlibrary', hchanges⟩ := hread 2 serverHeaders rfl (by decide)
  refine ⟨c, library', hload, ?_, hlibrary', fun order' horder' => ?_⟩
  · have hrule : plainLibrary.technologies.get? "PHP" = some _ := rfl
    obtain ⟨t, ht, -⟩ := (madeOf_of_ofLibraryIn hload).exists_get? hrule
    rw [ht, Option.isSome_some]
  · obtain ⟨c', hload', -, hfull⟩ := hchanges order' horder'
    exact ⟨c', hload', hfull (.inr (by decide))⟩

/-- The text of a library whose technology has a text in the field of a channel. -/
def htmlLibrary (html : List Char) : List Char :=
  "\x7b\"categories\":\x7b\"1\":\x7b\x7d\x7d,\"technologies\":\x7b\"A\":\x7b\"html\":".toList ++
    html ++ "\x7d\x7d\x7d".toList

/-- Texts of values that are not read: 125 arrays, one in the other, a number beyond the doubles, and
half of a character that is written in two halves. -/
def unreadTexts : List (List Char) :=
  [List.replicate 125 '[' ++ List.replicate 125 ']', "1e999".toList, "\"\\ud800\"".toList]

/-- A library loads with null in a field, and is not decoded with other documents in its place. -/
theorem unread_values_do_not_load :
    let load (html : List Char) := ofBytes RuleLibrary.byKey (Text.encode (String.ofList (htmlLibrary html)))
    (load "null".toList).isOk = true ∧ ∀ html ∈ unreadTexts,
      (Raw.ofText? (String.ofList html)).isSome = true ∧ load html = .error .notDecodable := by
  intro load
  refine ⟨?_, fun html hhtml => ⟨?_, ?_⟩⟩
  · have hascii : (htmlLibrary "null".toList).all (·.toNat < 128) = true := by decide
    simp only [load, ofBytes, RuleLibrary.ofBytes?, ofBytes?_encode hascii]
    decide +kernel
  · have hread : unreadTexts.all (fun html => (Raw.ofSymbols? (html.map some)).isSome) = true := by
      decide +kernel
    rw [Raw.ofText?, String.toList_ofList]
    exact List.all_eq_true.1 hread html hhtml
  · have hascii : unreadTexts.all (fun html => (htmlLibrary html).all (·.toNat < 128)) = true := by
      decide +kernel
    have hunread : unreadTexts.all (fun html =>
        ((Raw.ofSymbols? ((htmlLibrary html).map some)).bind RuleLibrary.ofRaw?).isNone) = true := by
      decide +kernel
    have hnone := Option.isNone_iff_eq_none.1 (List.all_eq_true.1 hunread html hhtml)
    have hencoded := ofBytes?_encode (List.all_eq_true.1 hascii html hhtml)
    simp only [load, ofBytes, RuleLibrary.ofBytes?, hencoded, hnone]

end Catalog

end SiteTech
