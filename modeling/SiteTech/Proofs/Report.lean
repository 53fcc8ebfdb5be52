import SiteTech.Report
import SiteTech.Proofs.Json.Writing

namespace SiteTech

open Json (Raw Value)

/-- A category as a report has it. -/
def Category.withoutPriority (c : Category) : Category := { c with priority := 0 }

/-- A finding without the priorities of its categories. -/
def Finding.withoutPriorities (f : Finding) : Finding :=
  { f with categories := f.categories.map Category.withoutPriority }

/-- A report without the priorities of categories. -/
def Report.withoutPriorities (r : Report) : Report :=
  { r with technologies := r.technologies.map Finding.withoutPriorities }

theorem Category.toValue_withoutPriority (c : Category) : c.withoutPriority.toValue = c.toValue := rfl

theorem Finding.toValue_withoutPriorities (f : Finding) : f.withoutPriorities.toValue = f.toValue := by
  have hcategories : (f.categories.map Category.withoutPriority).map Category.toValue =
      f.categories.map Category.toValue := by
    rw [List.map_map]
    exact List.map_congr_left fun c _ => c.toValue_withoutPriority
  rw [toValue, toValue, withoutPriorities, hcategories]

/-- A report is written without the priorities of categories. -/
theorem Report.toValue_withoutPriorities (r : Report) : r.withoutPriorities.toValue = r.toValue := by
  have htechnologies : (r.technologies.map Finding.withoutPriorities).map Finding.toValue =
      r.technologies.map Finding.toValue := by
    rw [List.map_map]
    exact List.map_congr_left fun f _ => f.toValue_withoutPriorities
  rw [toValue, toValue, withoutPriorities, htechnologies]

private theorem hasWholeNumbers_map {α : Type} {f : α → Value} (h : ∀ a, (f a).HasWholeNumbers) (l : List α) :
    (Value.array (l.map f)).HasWholeNumbers := by
  refine .array fun v hv => ?_
  obtain ⟨a, -, rfl⟩ := List.mem_map.1 hv
  exact h a

private theorem hasWholeNumbers_word {n : Nat} (h : n < UInt32.size) : (Value.ofNat n).HasWholeNumbers :=
  .number (h.trans (by decide))

theorem PageStatus.toValue_hasWholeNumbers (p : PageStatus) : p.toValue.HasWholeNumbers := by
  have hstatus : p.status.toNat < UInt32.size := p.status.toNat_lt_size.trans (by decide)
  refine .object fun m hm => ?_
  simp only [List.mem_cons, List.not_mem_nil, or_false] at hm
  rcases hm with rfl | rfl
  · exact .string p.url
  · exact hasWholeNumbers_word hstatus

theorem Category.toValue_hasWholeNumbers (c : Category) : c.toValue.HasWholeNumbers := by
  refine .object fun m hm => ?_
  simp only [List.mem_cons, List.not_mem_nil, or_false] at hm
  rcases hm with rfl | rfl | rfl
  · exact hasWholeNumbers_word c.id.toNat_lt_size
  · exact .string c.slug
  · exact .string c.name

theorem Finding.toValue_hasWholeNumbers (f : Finding) : f.toValue.HasWholeNumbers := by
  refine .object fun m hm => ?_
  simp only [List.mem_cons, List.not_mem_nil, or_false] at hm
  rcases hm with rfl | rfl | rfl | rfl | rfl | rfl | rfl | rfl
  case inr.inr.inl => exact hasWholeNumbers_word f.confidence.toNat_lt_size
  case inr.inr.inr.inr.inr.inr.inr => exact hasWholeNumbers_map Category.toValue_hasWholeNumbers f.categories
  all_goals exact .string _

theorem Report.toValue_hasWholeNumbers (r : Report) : r.toValue.HasWholeNumbers := by
  refine .object fun m hm => ?_
  simp only [List.mem_cons, List.not_mem_nil, or_false] at hm
  rcases hm with rfl | rfl
  · exact hasWholeNumbers_map PageStatus.toValue_hasWholeNumbers r.urls
  · exact hasWholeNumbers_map Finding.toValue_hasWholeNumbers r.technologies

private theorem items?_ofValue {α : Type} (f : α → Value) (l : List α) :
    (Raw.ofValue (.array (l.map f))).items? = some (l.map fun a => Raw.ofValue (f a)) := by
  have hitems : ∀ l : List α, Raw.ofItems (l.map f) = l.map fun a => Raw.ofValue (f a) := by
    intro l
    induction l with
    | nil => rfl
    | cons a l ih => rw [List.map_cons, Raw.ofItems, ih, List.map_cons]
  rw [Raw.ofValue, Raw.items?, hitems]

private theorem mapM_map_eq_some {α β γ : Type} {f : α → β} {g : β → Option γ} {h : α → γ}
    (hg : ∀ a, g (f a) = some (h a)) (l : List α) : (l.map f).mapM g = some (l.map h) := by
  rw [List.mapM_map]
  exact Text.mapM_eq_some_map fun a _ => hg a

private theorem wholeIn?_ofNat {n bound : Nat} (h : n ≤ bound) :
    (Raw.ofValue (Value.ofNat n)).wholeIn? 0 bound = some (n : Int) :=
  if_pos ⟨Int.natCast_nonneg n, Int.ofNat_le.2 h⟩

private theorem readWord32_ofNat (n : UInt32) : readWord32 (Raw.ofValue (Value.ofNat n.toNat)) = some n := by
  have hbound : n.toNat ≤ UInt32.size - 1 := Nat.le_sub_one_of_lt n.toNat_lt_size
  have hwhole : (Raw.ofValue (Value.ofNat n.toNat)).wholeIn? 0 (UInt32.size - 1) = some (n.toNat : Int) :=
    wholeIn?_ofNat hbound
  rw [readWord32, hwhole, Option.map_some, Int.toNat_natCast, UInt32.ofNat_toNat]

/-- A page is read as it is written. -/
theorem PageStatus.ofRaw?_toValue (p : PageStatus) : ofRaw? (Raw.ofValue p.toValue) = some p := by
  have hstatus : (Raw.ofValue (Value.ofNat p.status.toNat)).wholeIn? 0 65535 = some (p.status.toNat : Int) :=
    wholeIn?_ofNat (Nat.le_sub_one_of_lt p.status.toNat_lt_size)
  have hread : ofRaw? (Raw.ofValue p.toValue) =
      ((Raw.ofValue (Value.ofNat p.status.toNat)).wholeIn? 0 65535).bind fun status =>
        some ⟨p.url, UInt16.ofNat status.toNat⟩ := rfl
  rw [hread, hstatus, Option.bind_some, Int.toNat_natCast, UInt16.ofNat_toNat]

/-- A category is read as it is written. -/
theorem Category.ofRaw?_toValue (c : Category) : ofRaw? (Raw.ofValue c.toValue) = some c.withoutPriority := by
  have hread : ofRaw? (Raw.ofValue c.toValue) =
      (readWord32 (Raw.ofValue (Value.ofNat c.id.toNat))).bind fun id => some ⟨id, c.slug, c.name, 0⟩ := rfl
  rw [hread, readWord32_ofNat]
  rfl

/-- A finding is read as it is written. -/
theorem Finding.ofRaw?_toValue (f : Finding) : ofRaw? (Raw.ofValue f.toValue) = some f.withoutPriorities := by
  have hread : ofRaw? (Raw.ofValue f.toValue) =
      (readWord32 (Raw.ofValue (Value.ofNat f.confidence.toNat))).bind fun confidence =>
        (Raw.ofValue (.array (f.categories.map Category.toValue))).items?.bind fun items =>
          (items.mapM Category.ofRaw?).bind fun categories =>
            some ⟨f.slug, f.name, confidence, f.version, f.icon, f.website, f.cpe, categories⟩ := rfl
  rw [hread, readWord32_ofNat, items?_ofValue, Option.bind_some, Option.bind_some,
    mapM_map_eq_some Category.ofRaw?_toValue]
  rfl

/-- A report is read as it is written. -/
theorem Report.ofRaw?_toValue (r : Report) : ofRaw? (Raw.ofValue r.toValue) = some r.withoutPriorities := by
  have hread : ofRaw? (Raw.ofValue r.toValue) =
      (Raw.ofValue (.array (r.urls.map PageStatus.toValue))).items?.bind fun urls =>
        (Raw.ofValue (.array (r.technologies.map Finding.toValue))).items?.bind fun technologies =>
          (urls.mapM PageStatus.ofRaw?).bind fun urls =>
            (technologies.mapM Finding.ofRaw?).bind fun technologies => some ⟨urls, technologies⟩ := rfl
  rw [hread, items?_ofValue, items?_ofValue, Option.bind_some, Option.bind_some,
    mapM_map_eq_some PageStatus.ofRaw?_toValue, mapM_map_eq_some Finding.ofRaw?_toValue, List.map_id']
  rfl

/-- A report is read from either of its texts, but for the priorities of categories, and what is read is written
as the same texts. -/
theorem Report.ofText?_texts (r : Report) :
    Report.ofText? r.compactText = some r.withoutPriorities ∧
      Report.ofText? r.prettyText = some r.withoutPriorities ∧
      r.withoutPriorities.compactText = r.compactText ∧ r.withoutPriorities.prettyText = r.prettyText := by
  have hwhole := r.toValue_hasWholeNumbers
  refine ⟨?_, ?_, ?_, ?_⟩
  · rw [ofText?, compactText, hwhole.ofText?_compactText, Option.bind_some, ofRaw?_toValue]
  · rw [ofText?, prettyText, hwhole.ofText?_prettyText, Option.bind_some, ofRaw?_toValue]
  · rw [compactText, compactText, toValue_withoutPriorities]
  · rw [prettyText, prettyText, toValue_withoutPriorities]

end SiteTech
