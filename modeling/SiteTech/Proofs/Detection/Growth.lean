import SiteTech.Detection.Page
import SiteTech.Proofs.Detection.Closure

namespace SiteTech

/-- A detection tells what an earlier one told: the technology is the same, the confidence is not
lower, and a version that was known is the same. -/
structure Detection.Extends (d d' : Detection) : Prop where
  technology : d'.technology = d.technology
  confidence : d.confidence ≤ d'.confidence
  version : d.version ≠ "" → d'.version = d.version

theorem Detection.Extends.refl (d : Detection) : d.Extends d := ⟨rfl, UInt32.le_refl _, fun _ => rfl⟩

theorem Detection.Extends.trans {d d' d'' : Detection} (h : d.Extends d') (h' : d'.Extends d'') :
    d.Extends d'' where
  technology := h'.technology.trans h.technology
  confidence := UInt32.le_trans h.confidence h'.confidence
  version hv := by
    have hsame := h.version hv
    exact (h'.version (hsame ▸ hv)).trans hsame

/-- All detections of an earlier store are extended by those of a later one. -/
def DetectionStore.Extends (s s' : DetectionStore) : Prop :=
  ∀ n d, s.get? n = some d → ∃ d', s'.get? n = some d' ∧ d.Extends d'

namespace DetectionStore

theorem Extends.refl (s : DetectionStore) : s.Extends s := fun _ d hd => ⟨d, hd, .refl d⟩

theorem Extends.trans {s s' s'' : DetectionStore} (h : s.Extends s') (h' : s'.Extends s'') :
    s.Extends s'' := by
  intro n d hd
  obtain ⟨d', hd', hext⟩ := h n d hd
  obtain ⟨d'', hd'', hext'⟩ := h' n d' hd'
  exact ⟨d'', hd'', hext.trans hext'⟩

/-- Each finding of an earlier store is there later, with no other change than a version that was not
known before and a higher confidence. -/
theorem Extends.exists_finding {s s' : DetectionStore} (h : s.Extends s') {f : Finding}
    (hf : f ∈ s.findings) :
    ∃ f' ∈ s'.findings, { f' with confidence := f.confidence, version := f.version } = f ∧
      f.confidence ≤ f'.confidence ∧ (f.version ≠ "" → f'.version = f.version) := by
  obtain ⟨d, hd, rfl⟩ := List.mem_map.1 hf
  obtain ⟨n, hn⟩ := (Table.mem_values_iff s.table).1 hd
  obtain ⟨d', hn', htechnology, hconfidence, hversion⟩ := h n d hn
  have hd' : d' ∈ s'.table.values := (Table.mem_values_iff s'.table).2 ⟨n, hn'⟩
  refine ⟨d'.finding, List.mem_map_of_mem hd', ?_, hconfidence, hversion⟩
  simp [Detection.finding, htechnology]

end DetectionStore

end SiteTech
