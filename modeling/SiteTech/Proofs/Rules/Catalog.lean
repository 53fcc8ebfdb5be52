import SiteTech.Proofs.Rules.Loading

namespace SiteTech

namespace Catalog

/-- Every technology stands under its own name. -/
def Named (c : Catalog) : Prop := ∀ n t, c.get? n = some t → t.name = n

/-- In a catalog that was loaded every technology stands under its own name. -/
theorem named_of_ofLibraryIn {library : RuleLibrary} {order : List (String × CategoryRule)} {c : Catalog}
    (hload : ofLibraryIn order library = .ok c) : c.Named := by
  intro n t hget
  obtain ⟨rule, -, hmade⟩ := (madeOf_of_ofLibraryIn hload).get?_eq_some_iff.1 hget
  obtain ⟨cats, -, rfl⟩ := Technology.ofRule_eq_ok_iff.1 hmade
  rfl

/-- The technologies of a catalog are those that are found under some name. -/
theorem mem_technologies_iff (c : Catalog) {t : Technology} :
    t ∈ c.technologies.values ↔ ∃ n, c.get? n = some t := Table.mem_values_iff c.technologies

/-- A technology of a catalog is found under its own name. -/
theorem Named.get?_name {c : Catalog} (hnamed : c.Named) {t : Technology} :
    t ∈ c.technologies.values ↔ c.get? t.name = some t := by
  rw [mem_technologies_iff]
  constructor
  · rintro ⟨n, hn⟩
    rwa [hnamed n t hn]
  · exact fun h => ⟨t.name, h⟩

end Catalog

end SiteTech
