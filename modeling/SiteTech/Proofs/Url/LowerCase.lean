import SiteTech.Proofs.Text.Normal
import SiteTech.Proofs.Text.Packed
import SiteTech.Proofs.Url.Plain

namespace SiteTech.Url

/-- Characters at equal distances. -/
structure Spread where
  first : Nat
  length : Nat
  step : Nat
deriving DecidableEq

/-- Whether a character is among those at equal distances. -/
def Spread.covers (s : Spread) (n : Nat) : Bool :=
  decide (s.first ≤ n ∧ n ≤ s.first + (s.length - 1) * s.step) && (n - s.first) % s.step == 0

/-- Where the characters of a run are. -/
def MappingRun.sources (r : MappingRun) : Spread := ⟨r.first, r.length, r.step⟩

/-- Where the characters of a run move to. -/
def MappingRun.targets (r : MappingRun) : List Nat :=
  (List.range (r.length - 1 + 1)).map fun k => r.target + k * r.step

/-- Capital letters up to U+0232, in the runs in which they are mapped. -/
def latinCapitals : List Spread :=
  [⟨0xc0, 23, 1⟩, ⟨0xd8, 7, 1⟩, ⟨0x100, 24, 2⟩, ⟨0x134, 2, 2⟩, ⟨0x139, 3, 2⟩, ⟨0x141, 4, 2⟩, ⟨0x14a, 23, 2⟩,
    ⟨0x178, 1, 1⟩, ⟨0x179, 3, 2⟩, ⟨0x1a0, 3, 2⟩, ⟨0x1af, 1, 1⟩, ⟨0x1cd, 8, 2⟩, ⟨0x1de, 9, 2⟩, ⟨0x1f4, 1, 1⟩,
    ⟨0x1f8, 20, 2⟩, ⟨0x222, 9, 2⟩]

/-- Capital letters from U+1E00 on, in the runs in which they are mapped. -/
def laterCapitals : List Spread := [⟨0x1e00, 75, 2⟩, ⟨0x1ea0, 48, 2⟩, ⟨0x212a, 1, 1⟩, ⟨0x212b, 1, 1⟩]

/-- Whether a character is a capital letter of ASCII, or one of some ranges that have all characters with a
capital letter of ASCII in them. -/
def isCapital (n : Nat) : Bool :=
  if n < 0xc0 then decide (0x41 ≤ n ∧ n ≤ 0x5a)
  else if n < 0x1e00 then decide (n < 0x233) && (n == 0x130 || latinCapitals.any (·.covers n))
  else decide (n < 0x212c) && laterCapitals.any (·.covers n)

/-- No run leads to a capital letter, and the capital letters outside ASCII are in runs but for one. -/
def runsLeaveNoCapital (runs : List MappingRun) : Bool :=
  (runs.all fun r => decide (0x212b < r.target) || r.targets.all (!isCapital ·)) &&
    (latinCapitals ++ laterCapitals).all fun s => runs.any (·.sources == s)

/-- No mapping leads to a capital letter, and the capital letter that is in no run is mapped. -/
def mappingsLeaveNoCapital (mappings : List (Nat × List Nat)) : Bool :=
  (mappings.all fun m => m.2.all (!isCapital ·)) && mappings.any (·.1 == 0x130)

/-- Only capital letters have a capital letter in their decomposition, and they have it in front; what is
composed is never a letter of ASCII. -/
def decomposesByCase (d : Text.Decomposition) : Bool :=
  (!isCapital d.first || isCapital d.whole) && d.second.toList.all (!isCapital ·) && decide (0xc0 ≤ d.whole)

open Text in
theorem mappingRuns_leaveNoCapital : runsLeaveNoCapital mappingRuns = true := by
  unfold mappingRuns
  apply IsJoinedFrom.of_rowsOfLines (P := fun rows => runsLeaveNoCapital (mappingRunsOf 0 rows) = true)
  · unfold mappingRunText
    repeat apply IsJoinedFrom.append
    exact IsJoinedFrom.line _
  · decide +kernel

open Text in
theorem mappings_leaveNoCapital : mappingsLeaveNoCapital mappings = true := by
  unfold mappings
  apply IsJoinedFrom.of_rowsOfLines (P := fun rows => mappingsLeaveNoCapital (mappingsOf 0 rows) = true)
  · unfold mappingText
    repeat apply IsJoinedFrom.append
    exact IsJoinedFrom.line _
  · decide +kernel

open Text in
theorem decompositions_byCase : decompositions.toList.all decomposesByCase = true := by
  unfold decompositions
  rw [List.toList_toArray]
  apply IsJoinedFrom.of_rowsOfLines (P := fun rows => (decompositionsOf 0 rows).all decomposesByCase = true)
  · unfold decompositionText
    repeat apply IsJoinedFrom.append
    exact IsJoinedFrom.line _
  · decide +kernel

theorem Spread.covers_iff {s : Spread} {n : Nat} :
    s.covers n = true ↔
      (s.first ≤ n ∧ n ≤ s.first + (s.length - 1) * s.step) ∧ (n - s.first) % s.step = 0 := by
  rw [Spread.covers, Bool.and_eq_true, decide_eq_true_eq, beq_iff_eq]

theorem isCapital_eq_false_of_between {n : Nat} (hlow : 0x233 ≤ n) (hhigh : n < 0x1e00) :
    isCapital n = false := by
  rw [isCapital, if_neg (by omega), if_pos hhigh, decide_eq_false (by omega), Bool.false_and]

theorem isCapital_eq_false_of_above {n : Nat} (h : 0x212b < n) : isCapital n = false := by
  rw [isCapital, if_neg (by omega), if_neg (by omega), decide_eq_false (by omega), Bool.false_and]

/-- A capital letter outside ASCII is in one of the runs, or it is the one that is in none. -/
theorem exists_covers_of_isCapital {n : Nat} (hlow : 0xc0 ≤ n) (h : isCapital n = true) :
    n = 0x130 ∨ ∃ s ∈ latinCapitals ++ laterCapitals, s.covers n = true := by
  rw [isCapital, if_neg (Nat.not_lt.2 hlow)] at h
  split at h
  · simp only [Bool.and_eq_true, Bool.or_eq_true, beq_iff_eq, List.any_eq_true] at h
    rcases h.2 with h | ⟨s, hs, h⟩
    · exact .inl h
    · exact .inr ⟨s, List.mem_append_left _ hs, h⟩
  · simp only [Bool.and_eq_true, List.any_eq_true] at h
    obtain ⟨-, s, hs, h⟩ := h
    exact .inr ⟨s, List.mem_append_right _ hs, h⟩

/-- A code point that is no character stands for the first one. -/
theorem isCapital_toNat_ofNat {n : Nat} (h : isCapital n = false) : isCapital (Char.ofNat n).toNat = false := by
  by_cases hvalid : n.isValidChar
  · rwa [Char.ofNat, dif_pos hvalid]
  · rw [Char.ofNat, dif_neg hvalid]
    rfl

theorem MappingRun.mem_targets {r : MappingRun} {n : Nat} (h : r.sources.covers n = true) :
    r.target + (n - r.first) ∈ r.targets := by
  obtain ⟨⟨hlow, hhigh⟩, hstep⟩ := Spread.covers_iff.1 h
  have hwhole : (n - r.first) / r.step * r.step = n - r.first :=
    Nat.div_mul_cancel (Nat.dvd_of_mod_eq_zero hstep)
  have hcount : (n - r.first) / r.step ≤ r.length - 1 := by
    refine Nat.div_le_of_le_mul ?_
    rw [Nat.mul_comm]
    exact Nat.sub_le_of_le_add (Nat.add_comm r.first _ ▸ hhigh)
  exact List.mem_map.2 ⟨_, List.mem_range.2 (Nat.lt_succ_of_le hcount), by rw [hwhole]⟩

theorem isCapital_eq_false_of_mem_targets {r : MappingRun} (hr : r ∈ mappingRuns) {n : Nat}
    (hn : n ∈ r.targets) : isCapital n = false := by
  have htable := mappingRuns_leaveNoCapital
  simp only [runsLeaveNoCapital, Bool.and_eq_true, List.all_eq_true, Bool.or_eq_true,
    decide_eq_true_eq] at htable
  rcases htable.1 r hr with hhigh | hall
  · obtain ⟨k, -, rfl⟩ := List.mem_map.1 hn
    exact isCapital_eq_false_of_above (Nat.lt_of_lt_of_le hhigh (Nat.le_add_right _ _))
  · simpa using hall n hn

/-- A character that is in no run and is not mapped otherwise is no capital letter. -/
theorem isCapital_eq_false_of_unmapped {n : Nat} (hlow : 0x80 ≤ n)
    (hruns : ∀ r ∈ mappingRuns, r.sources.covers n = false) (hmappings : ∀ m ∈ mappings, m.1 ≠ n) :
    isCapital n = false := by
  -- A capital letter outside ASCII would be in a run or mapped by itself.
  by_cases hlatin : n < 0xc0
  · rw [isCapital, if_pos hlatin, decide_eq_false (by omega)]
  refine eq_false_of_ne_true fun hcapital => ?_
  rcases exists_covers_of_isCapital (Nat.le_of_not_lt hlatin) hcapital with rfl | ⟨s, hs, hcovers⟩
  · have htable := mappings_leaveNoCapital
    simp only [mappingsLeaveNoCapital, Bool.and_eq_true, List.any_eq_true, beq_iff_eq] at htable
    obtain ⟨-, m, hm, hkey⟩ := htable
    exact hmappings m hm hkey
  · have htable := mappingRuns_leaveNoCapital
    simp only [runsLeaveNoCapital, Bool.and_eq_true, List.all_eq_true, List.any_eq_true, beq_iff_eq] at htable
    obtain ⟨r, hr, hsources⟩ := htable.2 s hs
    rw [← hsources, hruns r hr] at hcovers
    cases hcovers

theorem isCapital_eq_false_of_mapChar {c : Char} {mapped : List Char} (h : mapChar c = some mapped) :
    ∀ d ∈ mapped, isCapital d.toNat = false := by
  intro d hd
  unfold mapChar at h
  dsimp only at h
  split at h
  · rename_i hascii
    cases h
    rw [List.mem_singleton.1 hd]
    exact Text.of_ascii (P := fun c => isCapital c.toLower.toNat = false) (by decide) hascii
  rename_i hascii
  split at h
  · cases h
  split at h
  · cases h
    cases hd
  split at h
  · rename_i r hfound
    cases h
    rw [List.mem_singleton.1 hd]
    have hcovers := List.find?_some hfound
    exact isCapital_toNat_ofNat
      (isCapital_eq_false_of_mem_targets (List.mem_of_find?_eq_some hfound) (MappingRun.mem_targets hcovers))
  · rename_i hruns
    split at h
    · rename_i key target hfound
      cases h
      obtain ⟨n, hn, rfl⟩ := List.mem_map.1 hd
      have htable := mappings_leaveNoCapital
      simp only [mappingsLeaveNoCapital, Bool.and_eq_true, List.all_eq_true, Bool.not_eq_true'] at htable
      exact isCapital_toNat_ofNat (htable.1 _ (List.mem_of_find?_eq_some hfound) n hn)
    · rename_i hmappings
      cases h
      rw [List.mem_singleton.1 hd]
      refine isCapital_eq_false_of_unmapped (Nat.le_of_not_lt hascii) (fun r hr => ?_) fun m hm hkey => ?_
      · exact eq_false_of_ne_true (List.find?_eq_none.1 hruns r hr)
      · exact List.find?_eq_none.1 hmappings m hm (beq_iff_eq.2 hkey)

theorem toLower_ofNat {n : Nat} (h : ¬(0x41 ≤ n ∧ n ≤ 0x5a)) : (Char.ofNat n).toLower = Char.ofNat n := by
  refine Text.toLower_eq_self ?_
  by_cases hvalid : n.isValidChar
  · rwa [Char.ofNat, dif_pos hvalid]
  · rw [Char.ofNat, dif_neg hvalid]
    decide

theorem not_upper_of_isCapital_eq_false {n : Nat} (h : isCapital n = false) : ¬(0x41 ≤ n ∧ n ≤ 0x5a) := by
  intro hupper
  rw [isCapital, if_pos (by omega), decide_eq_true hupper] at h
  cases h

private theorem isCapital_eq_false_of_mem_hangulParts (n : Nat) (hn : n ≤ 0xd7a3) :
    ∀ m ∈ Text.hangulParts n, isCapital m = false := by
  intro m hm
  simp only [Text.hangulParts, List.mem_append, List.mem_cons, List.not_mem_nil, or_false] at hm
  rcases hm with (rfl | rfl) | hm
  · exact isCapital_eq_false_of_between (by omega) (by omega)
  · exact isCapital_eq_false_of_between (by omega) (by omega)
  · split at hm
    · cases hm
    · rw [List.mem_singleton.1 hm]
      exact isCapital_eq_false_of_between (by omega) (by omega)

theorem isCapital_eq_false_of_mem_decomposeChar {fuel n : Nat} (h : isCapital n = false) :
    ∀ m ∈ Text.decomposeChar fuel n, isCapital m = false := by
  refine Text.forall_mem_decomposeChar isCapital_eq_false_of_mem_hangulParts (fun d hd hwhole => ?_) h
  have hrow := List.all_eq_true.1 decompositions_byCase d hd
  simp only [decomposesByCase, Bool.and_eq_true, Bool.or_eq_true, Bool.not_eq_true', hwhole, or_false,
    Bool.false_eq_true, List.all_eq_true, Option.mem_toList] at hrow
  exact hrow.1

theorem lt_of_composePair {a b n : Nat} (h : Text.composePair a b = some n) : 0xc0 ≤ n := by
  rcases Text.composePair_eq_some h with h | ⟨d, hd, rfl⟩
  · omega
  · have hrow := List.all_eq_true.1 decompositions_byCase d hd
    simp only [decomposesByCase, Bool.and_eq_true, decide_eq_true_eq] at hrow
    exact hrow.2

/-- The normal form of a text without capital letters has none of ASCII. -/
theorem toLower_of_mem_normalize {s : List Char} (h : ∀ c ∈ s, isCapital c.toNat = false) {c : Char}
    (hc : c ∈ Text.normalize s) : c.toLower = c := by
  unfold Text.normalize at hc
  split at hc
  · exact Text.toLower_eq_self (not_upper_of_isCapital_eq_false (h c hc))
  · obtain ⟨n, hn, rfl⟩ := List.mem_map.1 hc
    have hparts : ∀ m ∈ Text.orderMarks [] [] (s.flatMap fun c => Text.decomposeChar 6 c.toNat),
        ¬(0x41 ≤ m ∧ m ≤ 0x5a) := by
      intro m hm
      rcases Text.mem_of_mem_orderMarks hm with hm | hm | hm
      · cases hm
      · cases hm
      · obtain ⟨d, hd, hm⟩ := List.mem_flatMap.1 hm
        exact not_upper_of_isCapital_eq_false (isCapital_eq_false_of_mem_decomposeChar (h d hd) m hm)
    refine toLower_ofNat (Text.forall_mem_compose (P := fun m => ¬(0x41 ≤ m ∧ m ≤ 0x5a)) ?_ ?_ ?_ ?_ hparts n hn)
    · intro a b m hm
      have hlow := lt_of_composePair hm
      omega
    · simp
    · simp
    · simp

private theorem toLower_digit :
    ∀ d < 36, (Punycode.digit d).toNat < 128 ∧ (Punycode.digit d).toLower = Punycode.digit d := by
  decide

private theorem toLower_asciiMark {c : Char} (hc : c ∈ asciiMark) : c.toNat < 128 ∧ c.toLower = c := by
  have hmark : asciiMark.all (fun c => decide (c.toNat < 128) && c.toLower == c) = true := by decide
  simpa using List.all_eq_true.1 hmark c hc

/-- The ASCII form of a label has ASCII characters in lower case, and some of the label itself. -/
theorem ascii_of_mem_encode {label : List Char} {c : Char} (hc : c ∈ asciiMark ++ Punycode.encode label) :
    c.toNat < 128 ∧ (c.toLower = c ∨ c ∈ label) := by
  rcases List.mem_append.1 hc with hc | hc
  · exact (toLower_asciiMark hc).imp_right .inl
  · rcases Punycode.mem_encode hc with ⟨hc, hascii⟩ | rfl | ⟨d, hd, rfl⟩
    · exact ⟨hascii, .inr hc⟩
    · exact ⟨by decide, .inl rfl⟩
    · exact (toLower_digit d hd).imp_right .inl

/-- The ASCII form of a label in lower case is in lower case. -/
theorem ascii_readLabel {label : List Char} {l : List Char × List Char} (hread : readLabel label = some l)
    (hlabel : ∀ c ∈ label, c.toLower = c) : ∀ c ∈ l.2, c.toNat < 128 ∧ c.toLower = c := by
  intro c hc
  unfold readLabel at hread
  split at hread
  · split at hread
    · cases hread
    split at hread
    · cases hread
    · rename_i chars _ hrefused
      cases hread
      simp only [Bool.or_eq_true, not_or, bne_iff_ne, ne_eq, not_not] at hrefused
      -- The label is kept only if it is what its characters are written as, so it is in ASCII.
      exact ⟨(ascii_of_mem_encode (hrefused.2 ▸ hc)).1, hlabel c hc⟩
  split at hread
  · rename_i hascii
    cases hread
    exact ⟨of_decide_eq_true (List.all_eq_true.1 hascii c hc), hlabel c hc⟩
  split at hread
  · cases hread
    obtain ⟨hascii, hlower | hmem⟩ := ascii_of_mem_encode hc
    · exact ⟨hascii, hlower⟩
    · exact ⟨hascii, hlabel c hmem⟩
  · cases hread

/-- A domain name is read in lower case, in ASCII. -/
theorem ascii_domainToAscii {bytes : List UInt8} {name : List Char} (h : domainToAscii bytes = some name) :
    ∀ c ∈ name, c.toNat < 128 ∧ c.toLower = c := by
  intro c hc
  rcases mem_domainToAscii h hc with rfl | ⟨mapped, label, l, hmapped, -, hlabel, hread, hc⟩
  · decide
  · obtain ⟨pieces, hpieces, rfl⟩ := Option.map_eq_some_iff.1 hmapped
    refine ascii_readLabel hread (fun d hd => toLower_of_mem_normalize (fun e he => ?_) (hlabel hd)) c hc
    obtain ⟨piece, hpiece, he⟩ := List.mem_flatten.1 he
    obtain ⟨char, -, hmap⟩ := exists_of_mem_mapM hpieces hpiece
    exact isCapital_eq_false_of_mapChar hmap e he

end SiteTech.Url
