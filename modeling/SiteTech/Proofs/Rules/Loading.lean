import SiteTech.Rules.Catalog
import SiteTech.Proofs.Table

namespace SiteTech

namespace RuleLibrary

/-- A library defines a category number if one of its categories has a key that reads as the number. -/
def Defines (library : RuleLibrary) (id : UInt32) : Prop :=
  ∃ key, library.categories.contains key = true ∧ Text.readUInt32 key.toList = some id

/-- What a library needs to be loaded. -/
structure WellFormed (library : RuleLibrary) : Prop where
  category : ∃ id, library.Defines id
  technology : ∃ name, library.technologies.contains name = true
  cats : ∀ name rule, library.technologies.get? name = some rule → ∀ id ∈ rule.cats, library.Defines id

end RuleLibrary

/-- What a fault of loading says of the library. -/
def RuleFault.IsFaultOf (library : RuleLibrary) : RuleFault → Prop
  | .noCategory => ∀ id, ¬library.Defines id
  | .noTechnology => ∀ name, library.technologies.contains name = false
  | .unknownCategory name id =>
    ∃ rule, library.technologies.get? name = some rule ∧ id ∈ rule.cats ∧ ¬library.Defines id
  | .unreadable _ _ | .notDecodable => False

/-- A catalog has each category and each technology of a library, ready for use. -/
structure Catalog.Represents (c : Catalog) (library : RuleLibrary) : Prop where
  /-- The categories are those that the library defines. -/
  defined : ∀ id, c.categories.contains id = true ↔ library.Defines id
  /-- A category stands under its number, with the slug of its name, and is one of the library. -/
  category : ∀ id cat, c.categories.get? id = some cat →
    cat.id = id ∧ cat.slug = Text.slug cat.name ∧
      ∃ key rule, library.categories.get? key = some rule ∧ Text.readUInt32 key.toList = some id ∧
        cat.name = rule.name ∧ cat.priority = rule.priority
  /-- There is one technology for each entry of the library, in the order of the names. -/
  names : c.technologies.keys = library.technologies.keys
  /-- A technology has its own name, the slug of it, and the categories that its rule refers to. -/
  technology : ∀ name rule, library.technologies.get? name = some rule →
    ∃ t, c.get? name = some t ∧ t.name = name ∧ t.slug = Text.slug name ∧
      t.categories.map some = rule.cats.map c.categories.get? ∧ t.certIssuer ≠ some ""

theorem CategoryRule.category_inj {rule rule' : CategoryRule} {id : UInt32}
    (h : rule.category id = rule'.category id) : rule = rule' := by
  obtain ⟨name, priority⟩ := rule
  obtain ⟨name', priority'⟩ := rule'
  simp only [category, Category.mk.injEq] at h
  obtain ⟨-, -, rfl, rfl⟩ := h
  rfl

namespace RuleLibrary

/-- A rule stands in a library under a key that reads as a number. -/
def DefinesBy (library : RuleLibrary) (id : UInt32) (rule : CategoryRule) : Prop :=
  ∃ key, library.categories.get? key = some rule ∧ Text.readUInt32 key.toList = some id

variable {library : RuleLibrary} {order : List (String × CategoryRule)} {id : UInt32}
  {rule : CategoryRule}

theorem enumerates_byKey (library : RuleLibrary) : library.Enumerates library.byKey := .refl _

theorem defines_iff_exists_definesBy : library.Defines id ↔ ∃ rule, library.DefinesBy id rule := by
  simp only [Defines, Table.contains_iff]
  constructor
  · rintro ⟨key, ⟨rule, hrule⟩, hid⟩
    exact ⟨rule, key, hrule, hid⟩
  · rintro ⟨rule, key, hrule, hid⟩
    exact ⟨key, ⟨rule, hrule⟩, hid⟩

theorem Enumerates.definesBy_iff (horder : library.Enumerates order) :
    library.DefinesBy id rule ↔ ∃ key, (key, rule) ∈ order ∧ Text.readUInt32 key.toList = some id := by
  simp only [DefinesBy, Table.get?_eq_some_iff, horder.mem_iff]

end RuleLibrary

namespace Catalog

variable {library : RuleLibrary} {order : List (String × CategoryRule)} {id : UInt32} {cat : Category}

private theorem filed_eq_some_iff {e : String × CategoryRule} :
    (Text.readUInt32 e.1.toList).map (fun id => (id, e.2.category id)) = some (id, cat) ↔
      Text.readUInt32 e.1.toList = some id ∧ e.2.category id = cat := by
  rw [Option.map_eq_some_iff]
  constructor
  · rintro ⟨_, hid, heq⟩
    cases heq
    exact ⟨hid, rfl⟩
  · rintro ⟨hid, rfl⟩
    exact ⟨id, hid, rfl⟩

/-- The category under a number is that of the last entry whose key reads as the number. -/
theorem get?_categoriesIn_eq_some_iff :
    (categoriesIn order).get? id = some cat ↔
      ∃ e front back, order = front ++ e :: back ∧
        (Text.readUInt32 e.1.toList = some id ∧ e.2.category id = cat) ∧
        ∀ e' ∈ back, Text.readUInt32 e'.1.toList ≠ some id := by
  simp only [categoriesIn, Table.get?_ofList_filterMap_eq_some_iff, ne_eq, filed_eq_some_iff, not_and,
    imp_false, forall_apply_eq_imp_iff]

theorem contains_categoriesIn_iff (horder : library.Enumerates order) :
    (categoriesIn order).contains id = true ↔ library.Defines id := by
  rw [categoriesIn, Table.contains_ofList_filterMap_iff, RuleLibrary.defines_iff_exists_definesBy]
  simp only [filed_eq_some_iff, horder.definesBy_iff, Prod.exists, exists_and_left, exists_eq', and_true]
  exact exists_comm

/-- The category under a number is that of a rule that the library has for the number. -/
theorem exists_definesBy_of_get?_categoriesIn (horder : library.Enumerates order)
    (hget : (categoriesIn order).get? id = some cat) :
    ∃ rule, library.DefinesBy id rule ∧ rule.category id = cat := by
  obtain ⟨⟨key, rule⟩, front, back, rfl, ⟨hid, hcat⟩, -⟩ := get?_categoriesIn_eq_some_iff.1 hget
  exact ⟨rule, horder.definesBy_iff.2 ⟨key, List.mem_append_right _ List.mem_cons_self, hid⟩, hcat⟩

end Catalog

private theorem map_eq_ok {ε α β : Type} {x : Except ε α} {f : α → β} {b : β} :
    x.map f = .ok b ↔ ∃ a, x = .ok a ∧ f a = b := by
  cases x <;> simp [Except.map]

private theorem map_eq_error {ε α β : Type} {x : Except ε α} {f : α → β} {e : ε} :
    x.map f = .error e ↔ x = .error e := by
  cases x <;> simp [Except.map]

namespace Technology

variable {name : String} {categories : Table UInt32 Category}

/-- The categories that are found are those of the numbers, in their order. -/
theorem findCategories_eq_ok_iff {ids : List UInt32} {cats : List Category} :
    findCategories name categories ids = .ok cats ↔ cats.map some = ids.map categories.get? := by
  induction ids generalizing cats with
  | nil =>
    rw [findCategories, Except.ok.injEq, List.map_nil, List.map_eq_nil_iff]
    exact eq_comm
  | cons id rest ih =>
    rw [findCategories, List.map_cons, List.map_eq_cons_iff]
    cases categories.get? id with
    | none => simp
    | some cat =>
      simp only [map_eq_ok, ih, Option.some.injEq]
      constructor
      · rintro ⟨others, hothers, rfl⟩
        exact ⟨cat, others, rfl, rfl, hothers⟩
      · rintro ⟨_, others, rfl, rfl, hothers⟩
        exact ⟨others, hothers, rfl⟩

theorem exists_of_findCategories_eq_error {ids : List UInt32} {fault : RuleFault}
    (h : findCategories name categories ids = .error fault) :
    ∃ id ∈ ids, categories.contains id = false ∧ fault = .unknownCategory name id := by
  induction ids with
  | nil => cases h
  | cons id rest ih =>
    rw [findCategories] at h
    split at h
    · rename_i hget
      cases h
      exact ⟨id, List.mem_cons_self, (Table.contains_eq_false_iff _).2 hget, rfl⟩
    · obtain ⟨id', hid', hfault⟩ := ih (map_eq_error.1 h)
      exact ⟨id', List.mem_cons_of_mem _ hid', hfault⟩

/-- The technology of a rule whose categories are found. -/
def assemble (name : String) (cats : List Category) (rule : TechRule) : Technology :=
  { name := name
    slug := Text.slug name
    categories := cats
    icon := rule.icon.getD ""
    website := rule.website.getD ""
    cpe := rule.cpe.getD ""
    channels := rule.channels.map Spec.patternsOf
    dom := DomRule.ofOptional rule.dom
    certIssuer := rule.certIssuer.filter fun s => !s.isEmpty }

theorem ofRule_eq (categories : Table UInt32 Category) (name : String) (rule : TechRule) :
    ofRule categories name rule =
      (findCategories name categories rule.cats).map fun cats => assemble name cats rule := rfl

theorem ofRule_eq_ok_iff {rule : TechRule} {t : Technology} :
    ofRule categories name rule = .ok t ↔
      ∃ cats, cats.map some = rule.cats.map categories.get? ∧ assemble name cats rule = t := by
  simp only [ofRule_eq, map_eq_ok, findCategories_eq_ok_iff]

theorem exists_of_ofRule_eq_error {rule : TechRule} {fault : RuleFault}
    (h : ofRule categories name rule = .error fault) :
    ∃ id ∈ rule.cats, categories.contains id = false ∧ fault = .unknownCategory name id :=
  exists_of_findCategories_eq_error (map_eq_error.1 h)

theorem certIssuer_assemble_ne (name : String) (cats : List Category) (rule : TechRule) :
    (assemble name cats rule).certIssuer ≠ some "" := by
  intro h
  exact absurd (Option.filter_eq_some_iff.1 h).2 (by decide)

end Technology

namespace Catalog

variable {categories : Table UInt32 Category} {rules : List (String × TechRule)}

private theorem technologiesOf_cons_eq_ok_iff {name : String} {rule : TechRule}
    {found : List (String × Technology)} :
    technologiesOf categories ((name, rule) :: rules) = .ok found ↔
      ∃ t others, Technology.ofRule categories name rule = .ok t ∧
        technologiesOf categories rules = .ok others ∧ (name, t) :: others = found := by
  rw [technologiesOf]
  cases Technology.ofRule categories name rule <;> simp [map_eq_ok]

/-- There is one technology for each rule, in the order of the rules, made of this rule. -/
theorem technologiesOf_eq_ok {found : List (String × Technology)}
    (h : technologiesOf categories rules = .ok found) :
    found.map (·.1) = rules.map (·.1) ∧
      ∀ name t, (name, t) ∈ found ↔
        ∃ rule, (name, rule) ∈ rules ∧ Technology.ofRule categories name rule = .ok t := by
  induction rules generalizing found with
  | nil =>
    cases h
    simp
  | cons e rest ih =>
    obtain ⟨first, firstRule⟩ := e
    obtain ⟨made, others, hmade, hothers, rfl⟩ := technologiesOf_cons_eq_ok_iff.1 h
    obtain ⟨hnames, hmem⟩ := ih hothers
    refine ⟨by rw [List.map_cons, List.map_cons, hnames], fun name t => ?_⟩
    rw [List.mem_cons, hmem, Prod.mk.injEq]
    constructor
    · rintro (⟨rfl, rfl⟩ | ⟨rule, hrule, hok⟩)
      · exact ⟨firstRule, List.mem_cons_self, hmade⟩
      · exact ⟨rule, List.mem_cons_of_mem _ hrule, hok⟩
    · rintro ⟨rule, hrule, hok⟩
      rcases List.mem_cons.1 hrule with heq | hrule
      · cases heq
        rw [hmade, Except.ok.injEq] at hok
        exact .inl ⟨rfl, hok.symm⟩
      · exact .inr ⟨rule, hrule, hok⟩

theorem exists_of_technologiesOf_eq_error {fault : RuleFault}
    (h : technologiesOf categories rules = .error fault) :
    ∃ name rule, (name, rule) ∈ rules ∧ Technology.ofRule categories name rule = .error fault := by
  induction rules with
  | nil => cases h
  | cons e rest ih =>
    obtain ⟨first, firstRule⟩ := e
    rw [technologiesOf] at h
    split at h
    · rename_i hrule
      cases h
      exact ⟨first, firstRule, List.mem_cons_self, hrule⟩
    · obtain ⟨name, rule, hmem, hfault⟩ := ih (map_eq_error.1 h)
      exact ⟨name, rule, List.mem_cons_of_mem _ hmem, hfault⟩

variable {library : RuleLibrary} {order : List (String × CategoryRule)} {c : Catalog}

/-- What a catalog of a library is made of, with the categories in a given order. -/
structure MadeOf (c : Catalog) (order : List (String × CategoryRule)) (library : RuleLibrary) : Prop where
  categories : c.categories = categoriesIn order
  some_category : c.categories.isEmpty = false
  technologies : technologiesOf c.categories library.technologies.toList = .ok c.technologies.toList
  some_technology : c.technologies.isEmpty = false

theorem madeOf_of_ofLibraryIn (h : ofLibraryIn order library = .ok c) : c.MadeOf order library := by
  rw [ofLibraryIn] at h
  split at h
  · cases h
  · rename_i hcategories
    split at h
    · cases h
    · rename_i found hfound
      split at h
      · cases h
      · rename_i htechnologies
        cases h
        -- The technologies come in the order of their names, so the table keeps them as they are.
        have hordered : found.Pairwise fun a b => compare a.1 b.1 = .lt := by
          have hkeys := library.technologies.ordered
          rw [← List.pairwise_map (f := Prod.fst) (R := fun a b => compare a b = .lt)] at hkeys ⊢
          rwa [(technologiesOf_eq_ok hfound).1]
        have hlist : (Table.ofList found).toList = found := Table.toList_ofList hordered
        refine ⟨rfl, by simpa using hcategories, by rw [hlist]; exact hfound, ?_⟩
        rw [← hlist] at htechnologies
        exact Bool.eq_false_iff.2 htechnologies

/-- A fault that loading reports is one that the library has. -/
theorem isFaultOf_of_ofLibraryIn (horder : library.Enumerates order) {fault : RuleFault}
    (h : ofLibraryIn order library = .error fault) : fault.IsFaultOf library := by
  rw [ofLibraryIn] at h
  split at h
  · rename_i hempty
    cases h
    intro id hid
    rw [← contains_categoriesIn_iff horder, (Table.isEmpty_iff _).1 hempty id] at hid
    cases hid
  · split at h
    · rename_i fault' hfault
      cases h
      obtain ⟨name, rule, hrule, hfault⟩ := exists_of_technologiesOf_eq_error hfault
      obtain ⟨id, hid, hmissing, rfl⟩ := Technology.exists_of_ofRule_eq_error hfault
      refine ⟨rule, (Table.get?_eq_some_iff _).2 hrule, hid, fun hdefined => ?_⟩
      rw [(contains_categoriesIn_iff horder).2 hdefined] at hmissing
      cases hmissing
    · rename_i found hfound
      split at h
      · rename_i hempty
        cases h
        have hnames := (technologiesOf_eq_ok hfound).1
        rw [List.isEmpty_iff.1 hempty, List.map_nil, eq_comm, List.map_eq_nil_iff] at hnames
        exact (Table.isEmpty_iff _).1 (List.isEmpty_iff.2 hnames)
      · cases h

variable (hmade : c.MadeOf order library)
include hmade

theorem MadeOf.keys_eq : c.technologies.keys = library.technologies.keys :=
  (technologiesOf_eq_ok hmade.technologies).1

/-- The technology of a name is the one that is made of the rule with this name. -/
theorem MadeOf.get?_eq_some_iff {name : String} {t : Technology} :
    c.get? name = some t ↔
      ∃ rule, library.technologies.get? name = some rule ∧
        Technology.ofRule c.categories name rule = .ok t := by
  simp only [get?, Table.get?_eq_some_iff]
  exact (technologiesOf_eq_ok hmade.technologies).2 name t

/-- Every rule has its technology. -/
theorem MadeOf.exists_get? {name : String} {rule : TechRule}
    (hrule : library.technologies.get? name = some rule) :
    ∃ t, c.get? name = some t ∧ Technology.ofRule c.categories name rule = .ok t := by
  have hkey : name ∈ c.technologies.keys := by
    rw [hmade.keys_eq, Table.mem_keys_iff, Table.contains_iff]
    exact ⟨rule, hrule⟩
  obtain ⟨t, ht⟩ := (Table.contains_iff _).1 ((Table.mem_keys_iff _).1 hkey)
  obtain ⟨rule', hrule', hok⟩ := hmade.get?_eq_some_iff.1 ht
  rw [hrule, Option.some.injEq] at hrule'
  exact ⟨t, ht, hrule' ▸ hok⟩

theorem MadeOf.wellFormed (horder : library.Enumerates order) : library.WellFormed := by
  have hdefines : ∀ id, c.categories.contains id = true → library.Defines id := fun id hid =>
    (contains_categoriesIn_iff horder).1 (hmade.categories ▸ hid)
  constructor
  case category =>
    obtain ⟨id, hid⟩ := Table.exists_contains hmade.some_category
    exact ⟨id, hdefines id hid⟩
  case technology =>
    obtain ⟨name, hname⟩ := Table.exists_contains hmade.some_technology
    rw [← Table.mem_keys_iff, hmade.keys_eq, Table.mem_keys_iff] at hname
    exact ⟨name, hname⟩
  case cats =>
    intro name rule hrule id hid
    obtain ⟨t, -, hok⟩ := hmade.exists_get? hrule
    obtain ⟨cats, hcats, -⟩ := Technology.ofRule_eq_ok_iff.1 hok
    have hfound : c.categories.get? id ∈ cats.map some := hcats ▸ List.mem_map_of_mem hid
    obtain ⟨cat, -, hcat⟩ := List.mem_map.1 hfound
    exact hdefines id ((Table.contains_iff _).2 ⟨cat, hcat.symm⟩)

theorem MadeOf.represents (horder : library.Enumerates order) : c.Represents library := by
  constructor
  case defined =>
    intro id
    rw [hmade.categories]
    exact contains_categoriesIn_iff horder
  case category =>
    intro id cat hget
    rw [hmade.categories] at hget
    obtain ⟨rule, ⟨key, hrule, hid⟩, rfl⟩ := exists_definesBy_of_get?_categoriesIn horder hget
    exact ⟨rfl, rfl, key, rule, hrule, hid, rfl, rfl⟩
  case names => exact hmade.keys_eq
  case technology =>
    intro name rule hrule
    obtain ⟨t, hget, hok⟩ := hmade.exists_get? hrule
    obtain ⟨cats, hcats, rfl⟩ := Technology.ofRule_eq_ok_iff.1 hok
    exact ⟨_, hget, rfl, rfl, hcats, Technology.certIssuer_assemble_ne name cats rule⟩

omit hmade

theorem not_isFaultOf_of_wellFormed (hlibrary : library.WellFormed) (fault : RuleFault) :
    ¬fault.IsFaultOf library := by
  intro hfault
  cases fault with
  | unreadable path fault => exact hfault
  | notDecodable => exact hfault
  | noCategory =>
    obtain ⟨id, hid⟩ := hlibrary.category
    exact hfault id hid
  | noTechnology =>
    obtain ⟨name, hname⟩ := hlibrary.technology
    rw [hfault name] at hname
    cases hname
  | unknownCategory name id =>
    obtain ⟨rule, hrule, hid, hmissing⟩ := hfault
    exact hmissing (hlibrary.cats name rule hrule id hid)

theorem exists_ofLibraryIn_of_wellFormed (horder : library.Enumerates order)
    (hlibrary : library.WellFormed) : ∃ c, ofLibraryIn order library = .ok c := by
  cases hload : ofLibraryIn order library with
  | ok c => exact ⟨c, rfl⟩
  | error fault =>
    exact absurd (isFaultOf_of_ofLibraryIn horder hload) (not_isFaultOf_of_wellFormed hlibrary fault)

/-- In whatever order its categories are enumerated, a library loads exactly if it is well formed, and the
catalog then has all of it. -/
theorem loads_iff_wellFormed (library : RuleLibrary) {order : List (String × CategoryRule)}
    (horder : library.Enumerates order) :
    ((∃ c, ofLibraryIn order library = .ok c) ↔ library.WellFormed) ∧
      ∀ c, ofLibraryIn order library = .ok c → c.Represents library :=
  ⟨⟨fun ⟨_, hload⟩ => (madeOf_of_ofLibraryIn hload).wellFormed horder,
      exists_ofLibraryIn_of_wellFormed horder⟩,
    fun _ hload => (madeOf_of_ofLibraryIn hload).represents horder⟩

end Catalog

/-- A rule that tells nothing of its technology. -/
def TechRule.bare : TechRule :=
  ⟨[], none, none, none, ⟨none, none, none, none, none, none, none, none, none, none⟩, none, none⟩

/-- A small library: a technology with two signs, which implies another one and is implied by it. -/
def sampleLibrary : RuleLibrary :=
  { categories := Table.ofList [("1", ⟨"CMS", 0⟩)]
    technologies := Table.ofList
      [("WordPress", { TechRule.bare with
          cats := [1]
          channels := { TechRule.bare.channels with
            cookies := some (.keyed (Table.ofList [("wp-settings", .single "\\;confidence:40")]))
            implies := some (.list ["PHP\\;version:8", "Missing"]) }
          certIssuer := some "Automattic" }),
       ("PHP", { TechRule.bare with
          channels := { TechRule.bare.channels with implies := some (.single "WordPress") } })] }

/-- The catalog of the small library. -/
def sampleCatalog : Catalog :=
  (Catalog.ofLibrary sampleLibrary).toOption.getD ⟨Table.empty, Table.empty⟩

theorem ofLibrary_sampleLibrary : Catalog.ofLibrary sampleLibrary = .ok sampleCatalog := rfl

/-- The small library is well formed, and its catalog has all of it. -/
theorem sampleLibrary_represented :
    Catalog.ofLibrary sampleLibrary = .ok sampleCatalog ∧ sampleLibrary.WellFormed ∧
      sampleCatalog.Represents sampleLibrary :=
  have hloads := Catalog.loads_iff_wellFormed sampleLibrary sampleLibrary.enumerates_byKey
  ⟨rfl, hloads.1.1 ⟨sampleCatalog, rfl⟩, hloads.2 sampleCatalog rfl⟩

end SiteTech
