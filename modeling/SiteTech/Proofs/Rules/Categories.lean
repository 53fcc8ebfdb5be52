import SiteTech.Proofs.Rules.Loading
import SiteTech.Proofs.Text.Basic

namespace SiteTech

namespace RuleLibrary

/-- Entries of a library whose keys read as one number say the same. -/
def Unambiguous (library : RuleLibrary) : Prop :=
  ∀ id rule rule', library.DefinesBy id rule → library.DefinesBy id rule' → rule = rule'

variable {library : RuleLibrary} {order : List (String × CategoryRule)} {id : UInt32} {rule : CategoryRule}

theorem unambiguous_iff : library.Unambiguous ↔
    ∀ e ∈ library.categories.toList, ∀ e' ∈ library.categories.toList,
      (Text.readUInt32 e.1.toList).isSome → Text.readUInt32 e.1.toList = Text.readUInt32 e'.1.toList →
        e.2 = e'.2 := by
  simp only [Unambiguous, DefinesBy, Table.get?_eq_some_iff, Option.isSome_iff_exists]
  constructor
  · rintro h ⟨key, rule⟩ hmem ⟨key', rule'⟩ hmem' ⟨id, hid⟩ hsame
    exact h id rule rule' ⟨key, hmem, hid⟩ ⟨key', hmem', hsame ▸ hid⟩
  · rintro h id rule rule' ⟨key, hmem, hid⟩ ⟨key', hmem', hid'⟩
    exact h (key, rule) hmem (key', rule') hmem' ⟨id, hid⟩ (hid.trans hid'.symm)

instance (library : RuleLibrary) : Decidable library.Unambiguous := decidable_of_iff' _ unambiguous_iff

/-- Every entry is the last one in some order. -/
theorem DefinesBy.exists_last (h : library.DefinesBy id rule) :
    ∃ key front, Text.readUInt32 key.toList = some id ∧ library.Enumerates (front ++ [(key, rule)]) := by
  obtain ⟨key, hrule, hid⟩ := h
  obtain ⟨front, back, heq⟩ := List.append_of_mem ((Table.get?_eq_some_iff _).1 hrule)
  refine ⟨key, front ++ back, hid, ?_⟩
  rw [Enumerates, heq]
  exact List.perm_append_singleton _ _ |>.trans List.perm_middle.symm

end RuleLibrary

namespace Catalog

variable {library : RuleLibrary} {order : List (String × CategoryRule)} {id : UInt32} {rule : CategoryRule}
  {c : Catalog}

/-- A library that loads does so in whatever order its categories are enumerated. -/
theorem exists_ofLibraryIn (hload : ofLibraryIn order library = .ok c) (horder : library.Enumerates order)
    {order' : List (String × CategoryRule)} (horder' : library.Enumerates order') :
    ∃ c', ofLibraryIn order' library = .ok c' ∧ c'.categories = categoriesIn order' := by
  have hlibrary := (madeOf_of_ofLibraryIn hload).wellFormed horder
  obtain ⟨c', hc'⟩ := exists_ofLibraryIn_of_wellFormed horder' hlibrary
  exact ⟨c', hc', (madeOf_of_ofLibraryIn hc').categories⟩

/-- Every rule of a number decides in some order. -/
theorem exists_order_of_definesBy (h : library.DefinesBy id rule) :
    ∃ order, library.Enumerates order ∧ (categoriesIn order).get? id = some (rule.category id) := by
  obtain ⟨key, front, hid, horder⟩ := h.exists_last
  exact ⟨_, horder, get?_categoriesIn_eq_some_iff.2 ⟨(key, rule), front, [], rfl, ⟨hid, rfl⟩, by simp⟩⟩

/-- A rule is kept in every order exactly if no other rule has its number. -/
theorem kept_iff (h : library.DefinesBy id rule) :
    (∀ order, library.Enumerates order → (categoriesIn order).get? id = some (rule.category id)) ↔
      ∀ rule', library.DefinesBy id rule' → rule' = rule := by
  constructor
  · intro hkept rule' hrule'
    obtain ⟨order, horder, hget⟩ := exists_order_of_definesBy hrule'
    rw [hkept order horder, Option.some.injEq] at hget
    exact (CategoryRule.category_inj hget).symm
  · intro honly order horder
    have hdefined : (categoriesIn order).contains id = true :=
      (contains_categoriesIn_iff horder).2 (RuleLibrary.defines_iff_exists_definesBy.2 ⟨rule, h⟩)
    obtain ⟨cat, hget⟩ := (Table.contains_iff _).1 hdefined
    obtain ⟨rule', hrule', rfl⟩ := exists_definesBy_of_get?_categoriesIn horder hget
    rw [hget, honly rule' hrule']

/-- Where every number has one rule, all orders file the same categories. -/
theorem categoriesIn_eq_of_unambiguous (hlibrary : library.Unambiguous) {order' : List (String × CategoryRule)}
    (horder : library.Enumerates order) (horder' : library.Enumerates order') :
    categoriesIn order = categoriesIn order' := by
  refine Table.ext_get? fun id => ?_
  by_cases hdefined : ∃ rule, library.DefinesBy id rule
  · obtain ⟨rule, hrule⟩ := hdefined
    have hkept := (kept_iff hrule).2 fun rule' hrule' => hlibrary id rule' rule hrule' hrule
    rw [hkept order horder, hkept order' horder']
  · have hnone {l : List (String × CategoryRule)} (hl : library.Enumerates l) : (categoriesIn l).get? id = none := by
      rw [← Table.contains_eq_false_iff, Bool.eq_false_iff, ne_eq, contains_categoriesIn_iff hl,
        RuleLibrary.defines_iff_exists_definesBy]
      exact hdefined
    rw [hnone horder, hnone horder']

theorem ofLibraryIn_eq_of_unambiguous (hlibrary : library.Unambiguous) {order' : List (String × CategoryRule)}
    (horder : library.Enumerates order) (horder' : library.Enumerates order') :
    ofLibraryIn order library = ofLibraryIn order' library := by
  rw [ofLibraryIn, ofLibraryIn, categoriesIn_eq_of_unambiguous hlibrary horder horder']

/-- In whatever order the categories of a library that loads are enumerated, it loads, and the category under a
number is that of the last entry whose key reads as the number. So an entry is kept in every order exactly if
no other rule has its number, and the catalog is the same in every order exactly if this holds of all entries. -/
theorem loading_keeps_last_category_of_number (hload : ofLibrary library = .ok c) :
    (∀ order, library.Enumerates order → ∃ c', ofLibraryIn order library = .ok c' ∧
      ∀ id cat, c'.categories.get? id = some cat ↔
        ∃ key rule front back, order = front ++ (key, rule) :: back ∧ Text.readUInt32 key.toList = some id ∧
          cat = ⟨id, Text.slug rule.name, rule.name, rule.priority⟩ ∧
          ∀ e ∈ back, Text.readUInt32 e.1.toList ≠ some id) ∧
    (∀ id rule, library.DefinesBy id rule →
      ((∀ order c', library.Enumerates order → ofLibraryIn order library = .ok c' →
          c'.categories.get? id = some ⟨id, Text.slug rule.name, rule.name, rule.priority⟩) ↔
        ∀ rule', library.DefinesBy id rule' → rule' = rule)) ∧
    ((∀ order, library.Enumerates order → ofLibraryIn order library = .ok c) ↔ library.Unambiguous) := by
  refine ⟨fun order horder => ?_, fun id rule hrule => ?_, fun hsame => ?_, fun hlibrary order horder => ?_⟩
  · obtain ⟨c', hc', hcategories⟩ := exists_ofLibraryIn hload library.enumerates_byKey horder
    refine ⟨c', hc', fun id cat => ?_⟩
    simp only [hcategories, get?_categoriesIn_eq_some_iff, Prod.exists, CategoryRule.category, and_assoc,
      eq_comm (a := cat)]
  · rw [← kept_iff hrule]
    refine forall_congr' fun order => ⟨fun hkept horder => ?_, fun hkept c' horder hc' => ?_⟩
    · obtain ⟨c', hc', hcategories⟩ := exists_ofLibraryIn hload library.enumerates_byKey horder
      exact hcategories ▸ hkept c' horder hc'
    · rw [(madeOf_of_ofLibraryIn hc').categories]
      exact hkept horder
  · intro id rule rule' hrule hrule'
    have hdecides {r : CategoryRule} (hr : library.DefinesBy id r) : c.categories.get? id = some (r.category id) := by
      obtain ⟨order, horder, hget⟩ := exists_order_of_definesBy hr
      rw [(madeOf_of_ofLibraryIn (hsame order horder)).categories]
      exact hget
    have heq := (hdecides hrule).symm.trans (hdecides hrule')
    exact CategoryRule.category_inj (Option.some.inj heq)
  · exact (ofLibraryIn_eq_of_unambiguous hlibrary horder library.enumerates_byKey).trans hload

end Catalog

/-- A library that spells the number of a category in two ways, says the same under both, and has another
category beside it. -/
def respelledLibrary : RuleLibrary :=
  { categories := Table.ofList [("01", ⟨"CMS", 1⟩), ("1", ⟨"CMS", 1⟩), ("2", ⟨"Blogs", 2⟩)]
    technologies := Table.ofList [("T", { TechRule.bare with cats := [1, 2] })] }

/-- What spells a number in two ways loads the same in every order if it says the same under both. -/
theorem respelledLibrary_loads_in_every_order :
    respelledLibrary.DefinesBy 1 ⟨"CMS", 1⟩ ∧ respelledLibrary.DefinesBy 2 ⟨"Blogs", 2⟩ ∧
      ∃ c, Catalog.ofLibrary respelledLibrary = .ok c ∧ ∀ order, respelledLibrary.Enumerates order →
        Catalog.ofLibraryIn order respelledLibrary = .ok c := by
  obtain ⟨c, hload⟩ : ∃ c, Catalog.ofLibrary respelledLibrary = .ok c := ⟨_, rfl⟩
  have hloads := Catalog.loading_keeps_last_category_of_number hload
  exact ⟨⟨"1", rfl, by decide⟩, ⟨"2", rfl, by decide⟩, c, hload, hloads.2.2.2 (by decide)⟩

/-- A library that has two categories under one number, which it spells in two ways. -/
def spelledLibrary : RuleLibrary :=
  { categories := Table.ofList [("01", ⟨"Blogs", 2⟩), ("1", ⟨"CMS", 1⟩)]
    technologies := Table.ofList [("T", { TechRule.bare with cats := [1] })] }

/-- One of two categories with one number is lost, and the order of the enumeration decides which. -/
theorem one_spelling_replaces_other :
    spelledLibrary.DefinesBy 1 ⟨"Blogs", 2⟩ ∧ spelledLibrary.DefinesBy 1 ⟨"CMS", 1⟩ ∧
      (∃ c, Catalog.ofLibrary spelledLibrary = .ok c ∧ c.categories.get? 1 = some ⟨1, "cms", "CMS", 1⟩) ∧
      ∃ order c, spelledLibrary.Enumerates order ∧ Catalog.ofLibraryIn order spelledLibrary = .ok c ∧
        c.categories.get? 1 = some ⟨1, "blogs", "Blogs", 2⟩ := by
  refine ⟨⟨"01", rfl, by decide⟩, ⟨"1", rfl, by decide⟩, ⟨_, rfl, by decide⟩,
    [("1", ⟨"CMS", 1⟩), ("01", ⟨"Blogs", 2⟩)], _, List.Perm.swap _ _ _, rfl, by decide⟩

end SiteTech
