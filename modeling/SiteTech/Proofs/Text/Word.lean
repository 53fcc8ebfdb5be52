import SiteTech.Text.Word
import SiteTech.Proofs.Text.Basic
import SiteTech.Proofs.Text.Packed

namespace SiteTech.Text

/-- A character that is found among ranges lies in one of them. -/
theorem Ranges.exists_of_search {bounds : Array (Nat × Nat)} {n lo hi : Nat} (h : search bounds n lo hi = true) :
    ∃ r ∈ bounds.toList, r.1 ≤ n ∧ n ≤ r.2 := by
  fun_induction search bounds n lo hi with
  | case1 => cases h
  | case2 lo hi hlt mid first last hfound hbelow ih => exact ih h
  | case3 lo hi hlt mid first last hfound hbelow habove ih => exact ih h
  | case4 lo hi hlt mid first last hfound hbelow habove =>
    exact ⟨(first, last), Array.mem_toList_iff.2 (Array.mem_of_getElem? hfound), Nat.not_lt.1 hbelow, Nat.not_lt.1 habove⟩
  | case5 => cases h

/-- The ranges of the blanks. -/
def blankRanges : List (Nat × Nat) :=
  [(9, 13), (0x20, 0x20), (0x85, 0x85), (0xa0, 0xa0), (0x1680, 0x1680), (0x2000, 0x200a), (0x2028, 0x2029),
    (0x202f, 0x202f), (0x205f, 0x205f), (0x3000, 0x3000)]

theorem isBlank_iff {c : Char} : isBlank c = true ↔ ∃ b ∈ blankRanges, b.1 ≤ c.toNat ∧ c.toNat ≤ b.2 := by
  simp only [isBlank, blankRanges, Bool.or_eq_true, Bool.and_eq_true, decide_eq_true_eq, beq_iff_eq, List.mem_cons,
    List.not_mem_nil, or_false, exists_eq_or_imp, exists_eq_left]
  omega

/-- Whether a range is apart from those of the blanks. -/
def isApartFromBlanks (r : Nat × Nat) : Bool := blankRanges.all fun b => decide (r.2 < b.1 ∨ b.2 < r.1)

theorem wordRanges_apartFromBlanks : wordRanges.bounds.toList.all isApartFromBlanks = true := by
  unfold wordRanges Ranges.unpack
  rw [List.toList_toArray]
  apply IsJoinedFrom.of_rowsOfLines (P := fun rows => (Ranges.ofRows 0 rows).all isApartFromBlanks = true)
  · repeat apply IsJoinedFrom.append
    exact IsJoinedFrom.line _
  · decide +kernel

theorem isWord_of_isBlank {c : Char} (hc : isBlank c = true) : isWord c = false := by
  by_cases hascii : c.toNat < 128
  · exact of_ascii (P := fun c => isBlank c = true → isWord c = false) (by decide) hascii hc
  · rw [isWord, if_neg hascii, Bool.eq_false_iff]
    intro hword
    obtain ⟨r, hr, hfirst, hlast⟩ := Ranges.exists_of_search hword
    obtain ⟨b, hb, hfrom, hto⟩ := isBlank_iff.1 hc
    have hapart := List.all_eq_true.1 (List.all_eq_true.1 wordRanges_apartFromBlanks r hr) b hb
    rw [decide_eq_true_eq] at hapart
    omega

end SiteTech.Text
