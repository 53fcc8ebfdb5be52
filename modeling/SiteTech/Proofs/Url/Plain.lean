import SiteTech.Proofs.Text.Utf8
import SiteTech.Proofs.Url.Canonical

namespace SiteTech

namespace Text

private theorem rows_foldl (s : List Char) (rows : List (List Nat)) (row : List Nat) (n : Nat) :
    (s.foldl Packed.step ⟨rows, row, n⟩).close.rows =
      (s.foldl Packed.step ⟨[], row, n⟩).close.rows ++ rows := by
  induction s generalizing rows row n with
  | nil => rfl
  | cons c s ih =>
    rw [List.foldl_cons, List.foldl_cons, Packed.step, Packed.step]
    split
    · have hclose (rows : List (List Nat)) :
          Packed.close ⟨rows, row, n⟩ = ⟨(n :: row).reverse :: rows, [], 0⟩ := rfl
      rw [hclose, hclose, ih, ih [(n :: row).reverse], List.append_assoc]
      rfl
    · split
      · exact ih rows _ _
      · exact ih rows _ _

/-- A packed table has the rows of its parts, where a space stands between them. -/
theorem packedRows_append (front rest : String) :
    packedRows (front ++ " " ++ rest) = packedRows front ++ packedRows rest := by
  have hspace : " ".toList = [' '] := rfl
  simp only [packedRows, String.foldl_eq_foldl_toList, String.toList_append, hspace, List.foldl_append,
    List.foldl_cons, List.foldl_nil]
  generalize front.toList.foldl Packed.step ⟨[], [], 0⟩ = read
  have hclose : read.step ' ' = ⟨read.close.rows, [], 0⟩ := rfl
  rw [hclose, rows_foldl, List.reverse_append]

end Text

namespace Url

private theorem exists_append {front a : String} (h : ∃ rest, a = front ++ " " ++ rest) (b : String) :
    ∃ rest, a ++ b = front ++ " " ++ rest := by
  obtain ⟨rest, rfl⟩ := h
  exact ⟨rest ++ b, String.append_assoc⟩

/-- The directions of the characters up to 132, in the order of the table. -/
def firstDirections : List (Nat × Nat × Nat) :=
  [(0, 8, 9), (14, 27, 9), (33, 34, 8), (35, 37, 7), (38, 42, 8), (43, 43, 5), (44, 44, 6), (45, 45, 5),
    (46, 47, 6), (48, 57, 4), (58, 58, 6), (59, 64, 8), (91, 96, 8), (123, 126, 8), (127, 132, 9)]

private theorem directionRanges_eq :
    ∃ rows, directionRanges = firstDirections ++ numberedOf 132 rows := by
  have htext : ∃ rest, directionText = "0-8-9 6-d-9 6-1-8 1-2-7 1-4-8 1-0-5 1-0-6 1-0-5 1-1-6 " ++
      "1-9-4 1-0-6 1-5-8 1b-5-8 1b-3-8 1-5-9" ++ " " ++ rest := by
    unfold directionText
    repeat apply exists_append
    exact ⟨"", rfl⟩
  have hfront : Text.packedRows ("0-8-9 6-d-9 6-1-8 1-2-7 1-4-8 1-0-5 1-0-6 1-0-5 1-1-6 " ++
      "1-9-4 1-0-6 1-5-8 1b-5-8 1b-3-8 1-5-9") =
      [[0, 8, 9], [6, 13, 9], [6, 1, 8], [1, 2, 7], [1, 4, 8], [1, 0, 5], [1, 0, 6], [1, 0, 5], [1, 1, 6],
        [1, 9, 4], [1, 0, 6], [1, 5, 8], [27, 5, 8], [27, 3, 8], [1, 5, 9]] := by
    rw [Text.packedRows, String.foldl_eq_foldl_toList]
    decide +kernel
  obtain ⟨rest, htext⟩ := htext
  exact ⟨Text.packedRows rest, by rw [directionRanges, htext, Text.packedRows_append, hfront]; rfl⟩

private theorem le_of_mem_numberedOf {last : Nat} {rows : List (List Nat)} {r : Nat × Nat × Nat}
    (h : r ∈ numberedOf last rows) : last ≤ r.1 := by
  induction rows generalizing last with
  | nil => cases h
  | cons row rows ih =>
    rcases List.mem_cons.1 h with rfl | h
    · exact Nat.le_add_right _ _
    · have hlater := ih h
      omega

private theorem numberIn_firstDirections :
    ∀ n < 128, numberIn firstDirections n = 0 ∨ 4 ≤ numberIn firstDirections n := by
  decide

/-- ASCII characters do not go to the left. -/
theorem hasLeftward_eq_false {label : List Char} (h : ∀ c ∈ label, c.toNat < 128) :
    hasLeftward label = false := by
  obtain ⟨rows, hrows⟩ := directionRanges_eq
  refine List.any_eq_false.2 fun c hc => ?_
  have hlt := h c hc
  have hlater : (numberedOf 132 rows).find?
      (fun r => decide (r.1 ≤ c.toNat ∧ c.toNat ≤ r.2.1)) = none := by
    refine List.find?_eq_none.2 fun r hr => ?_
    have hle := le_of_mem_numberedOf hr
    simp only [decide_eq_true_eq]
    omega
  have hnumber : numberIn directionRanges c.toNat = numberIn firstDirections c.toNat := by
    rw [numberIn, hrows, List.find?_append, hlater, Option.or_none, numberIn]
  rw [direction, hnumber]
  generalize hn : numberIn firstDirections c.toNat = n
  have hcases := hn ▸ numberIn_firstDirections c.toNat hlt
  unfold Direction.numbered
  split <;> simp_all

/-- A name has nothing that reading a host would change: no characters other than lower-case ones of
ASCII, none that may not stand in a name, and no label that stands for one with other characters. -/
structure IsPlainName (name : List Char) : Prop where
  ascii : ∀ c ∈ name, c.toNat < 128
  lower : ∀ c ∈ name, c.toLower = c
  allowed : ∀ c ∈ name, isForbidden c = false
  labels : ∀ label ∈ Text.splitOn '.' name, asciiMark.isPrefixOf label = false

theorem isPlainName_iff {name : List Char} :
    IsPlainName name ↔
      (name.all fun c => c.toNat < 128 && c.toLower == c && !isForbidden c) = true ∧
        ((Text.splitOn '.' name).all fun label => !asciiMark.isPrefixOf label) = true := by
  simp only [List.all_eq_true, Bool.and_eq_true, decide_eq_true_eq, beq_iff_eq, Bool.not_eq_true']
  constructor
  · intro h
    exact ⟨fun c hc => ⟨⟨h.ascii c hc, h.lower c hc⟩, h.allowed c hc⟩, h.labels⟩
  · rintro ⟨hchars, hlabels⟩
    exact ⟨fun c hc => (hchars c hc).1.1, fun c hc => (hchars c hc).1.2, fun c hc => (hchars c hc).2,
      hlabels⟩

instance (name : List Char) : Decidable (IsPlainName name) := decidable_of_iff' _ isPlainName_iff

private theorem percentDecode_eq_self {bytes : List UInt8} (h : ∀ b ∈ bytes, b ≠ 37) :
    percentDecode bytes = bytes := by
  fun_induction percentDecode bytes with
  | case1 b c rest x y hx hy ih => exact absurd rfl (h 37 List.mem_cons_self)
  | case2 a b c rest x y hx hy hne ih => rw [ih fun b hb => h b (List.mem_cons_of_mem _ hb)]
  | case3 a b c rest hnone ih => rw [ih fun b hb => h b (List.mem_cons_of_mem _ hb)]
  | case4 => rfl

theorem toLower_lt {c : Char} (hc : c.toNat < 128) : c.toLower.toNat < 128 :=
  Text.of_ascii (P := fun c => c.toLower.toNat < 128) (by decide) hc

section Ascii

variable {name : List Char} (hascii : ∀ c ∈ name, c.toNat < 128)

include hascii

theorem mapChars_of_ascii : mapChars name = some (Text.asciiLower name) := by
  have hchar : ∀ c ∈ name, mapChar c = some [c.toLower] := by
    intro c hc
    rw [mapChar]
    simp only [hascii c hc, if_true]
  rw [mapChars, Text.mapM_eq_some_map hchar, Option.map_some, ← List.flatMap_def, Text.asciiLower,
    ← List.map_eq_flatMap]

theorem ascii_asciiLower : ∀ c ∈ Text.asciiLower name, c.toNat < 128 := by
  intro c hc
  obtain ⟨d, hd, rfl⟩ := List.mem_map.1 hc
  exact toLower_lt (hascii d hd)

theorem normalize_of_ascii : Text.normalize name = name := by
  refine if_pos (List.all_eq_true.2 fun c hc => ?_)
  have hlt := hascii c hc
  simp only [decide_eq_true_eq]
  omega

theorem percentDecode_encode_of_ascii (hpercent : '%' ∉ name) :
    percentDecode (Text.encode (String.ofList name)) = name.map fun c => UInt8.ofNat c.toNat := by
  rw [Text.encode_ofList hascii]
  refine percentDecode_eq_self fun b hb => ?_
  obtain ⟨c, hc, rfl⟩ := List.mem_map.1 hb
  intro hbad
  have hbyte : (UInt8.ofNat c.toNat).toNat = 37 := by rw [hbad]; rfl
  rw [UInt8.toNat_ofNat', Nat.mod_eq_of_lt (by have := hascii c hc; omega)] at hbyte
  have hchar : c = '%' := Char.toNat_inj.1 hbyte
  exact hpercent (hchar ▸ hc)

/-- The ASCII form of a name of ASCII characters comes from its lower-case labels. -/
theorem domainToAscii_of_ascii (hpercent : '%' ∉ name) :
    domainToAscii (percentDecode (Text.encode (String.ofList name))) =
      if (Text.asciiLower name).any isForbidden then none
      else ((Text.splitOn '.' (Text.asciiLower name)).mapM readLabel).bind fun labels =>
        if (labels.map (·.1)).any hasLeftward && !(labels.map (·.1)).all directionAllowed then none
        else some (Text.join ['.'] (labels.map (·.2))) := by
  have hchars : (name.map some).map (·.getD (Char.ofNat 0xfffd)) = name := by
    rw [List.map_map]
    exact List.map_id' name
  rw [percentDecode_encode_of_ascii hascii hpercent, domainToAscii, Text.decode_map_ofNat hascii]
  simp only [hchars, mapChars_of_ascii hascii, normalize_of_ascii (ascii_asciiLower hascii),
    Option.bind_eq_bind, Option.bind_some]
  rfl

end Ascii

theorem readLabel_snd_of_ascii {label : List Char} {l : List Char × List Char}
    (hascii : ∀ c ∈ label, c.toNat < 128) (h : readLabel label = some l) : l.2 = label := by
  have hall : label.all (fun c => c.toNat < 128) = true :=
    List.all_eq_true.2 fun c hc => by simpa using hascii c hc
  unfold readLabel at h
  rw [hall] at h
  split at h
  · split at h
    · cases h
    · split at h
      · cases h
      · cases h
        rfl
  · cases h
    rfl

private theorem map_snd_of_mapM_readLabel {pieces : List (List Char)}
    {labels : List (List Char × List Char)} (hascii : ∀ piece ∈ pieces, ∀ c ∈ piece, c.toNat < 128)
    (h : pieces.mapM readLabel = some labels) : labels.map (·.2) = pieces := by
  induction pieces generalizing labels with
  | nil =>
    cases h
    rfl
  | cons piece pieces ih =>
    rw [List.forall_mem_cons] at hascii
    simp only [List.mapM_cons, Option.bind_eq_bind, Option.bind_eq_some_iff] at h
    obtain ⟨first, hfirst, rest, hrest, h⟩ := h
    cases h
    rw [List.map_cons, readLabel_snd_of_ascii hascii.1 hfirst, ih hascii.2 hrest]

/-- A name of ASCII characters that can be read is read in lower case. -/
theorem eq_asciiLower_of_domainToAscii {name result : List Char} (hascii : ∀ c ∈ name, c.toNat < 128)
    (hpercent : '%' ∉ name)
    (h : domainToAscii (percentDecode (Text.encode (String.ofList name))) = some result) :
    result = Text.asciiLower name := by
  rw [domainToAscii_of_ascii hascii hpercent] at h
  split at h
  · cases h
  obtain ⟨labels, hlabels, h⟩ := Option.bind_eq_some_iff.1 h
  split at h
  · cases h
  cases h
  have hpieces : ∀ piece ∈ Text.splitOn '.' (Text.asciiLower name), ∀ c ∈ piece, c.toNat < 128 :=
    fun piece hpiece c hc => ascii_asciiLower hascii c (Text.mem_of_mem_splitOn hpiece hc)
  rw [map_snd_of_mapM_readLabel hpieces hlabels, Text.join_splitOn]

/-- The case of letters in a host does not count. -/
theorem readHost_asciiLower {name : List Char} (hascii : ∀ c ∈ name, c.toNat < 128) (hpercent : '%' ∉ name)
    (hopen : '[' ∉ name) : readHost (Text.asciiLower name) = readHost name := by
  have hchar : ∀ c ∈ name, c.toLower ≠ '%' ∧ c.toLower ≠ '[' ∧ c.toLower.toLower = c.toLower := by
    intro c hc
    have hcases : c ≠ '%' → c ≠ '[' → c.toLower ≠ '%' ∧ c.toLower ≠ '[' ∧ c.toLower.toLower = c.toLower :=
      Text.of_ascii (P := fun c => c ≠ '%' → c ≠ '[' →
        c.toLower ≠ '%' ∧ c.toLower ≠ '[' ∧ c.toLower.toLower = c.toLower) (by decide) (hascii c hc)
    exact hcases (fun heq => hpercent (heq ▸ hc)) fun heq => hopen (heq ▸ hc)
  have hnot (d : Char) (h : ∀ c ∈ name, c.toLower ≠ d) : d ∉ Text.asciiLower name := by
    intro hmem
    obtain ⟨c, hc, heq⟩ := List.mem_map.1 hmem
    exact h c hc heq
  have hagain : Text.asciiLower (Text.asciiLower name) = Text.asciiLower name := by
    rw [Text.asciiLower, Text.asciiLower, List.map_map]
    exact List.map_congr_left fun c hc => (hchar c hc).2.2
  have hsame := domainToAscii_of_ascii (ascii_asciiLower hascii) (hnot '%' fun c hc => (hchar c hc).1)
  rw [hagain, ← domainToAscii_of_ascii hascii hpercent] at hsame
  have hplain {s : List Char} (h : '[' ∉ s) : ∀ rest, s = '[' :: rest → False := by
    rintro rest rfl
    exact h List.mem_cons_self
  rw [readHost, readHost, hsame]
  · exact hplain hopen
  · exact hplain (hnot '[' fun c hc => (hchar c hc).2.1)

/-- A host of ASCII characters is either the same name in lower case or an address of four bytes. -/
theorem text_of_readHost_ascii {name : List Char} (hascii : ∀ c ∈ name, c.toNat < 128)
    (hpercent : '%' ∉ name) (hopen : name.head? ≠ some '[') {h : Host}
    (hread : readHost name = .ok h) :
    h.text = Text.asciiLower name ∨ ∃ a, h.text = showIpv4 a := by
  unfold readHost at hread
  split at hread
  · exact absurd rfl hopen
  · split at hread
    · cases hread
    · cases hread
    · rename_i hname
      split at hread
      · split at hread
        · cases hread
          exact .inr ⟨_, rfl⟩
        · cases hread
      · cases hread
        exact .inl (eq_asciiLower_of_domainToAscii hascii hpercent hname)

theorem asciiLower_eq_self {name : List Char} (h : ∀ c ∈ name, c.toLower = c) : Text.asciiLower name = name :=
  (List.map_congr_left h).trans (List.map_id name)

theorem IsPlainName.readLabel {name label : List Char} (h : IsPlainName name)
    (hlabel : label ∈ Text.splitOn '.' name) : readLabel label = some (label, label) := by
  have hascii : label.all (fun c => c.toNat < 128) = true :=
    List.all_eq_true.2 fun c hc => by simpa using h.ascii c (Text.mem_of_mem_splitOn hlabel hc)
  rw [Url.readLabel, if_neg (by simp [h.labels label hlabel]), if_pos hascii]

/-- A plain name is its own ASCII form. -/
theorem IsPlainName.domainToAscii {name : List Char} (h : IsPlainName name) :
    domainToAscii (percentDecode (Text.encode (String.ofList name))) = some name := by
  have hpercent : '%' ∉ name := fun hmem => absurd (h.allowed _ hmem) (by decide)
  have hforbidden : name.any isForbidden = false := by
    simpa using h.allowed
  have hleft : (Text.splitOn '.' name).any hasLeftward = false := by
    refine List.any_eq_false.2 fun label hlabel => ?_
    rw [hasLeftward_eq_false fun c hc => h.ascii c (Text.mem_of_mem_splitOn hlabel hc)]
    decide
  rw [domainToAscii_of_ascii h.ascii hpercent, asciiLower_eq_self h.lower]
  simp only [hforbidden, Text.mapM_eq_some_map fun label hlabel => h.readLabel hlabel, Option.bind_some,
    List.map_map, Function.comp_def, List.map_id', hleft, Bool.false_and, Bool.false_eq_true, if_false]
  rw [Text.join_splitOn]

private theorem ipv4Number_decimal : ∀ n < 256, ipv4Number (Text.decimal n) = some (some n) := by
  decide +kernel

/-- The four bytes of an address, the highest first. -/
def ipv4Bytes (a : Nat) : List Nat := [(a >>> 24) % 256, (a >>> 16) % 256, (a >>> 8) % 256, a % 256]

theorem splitOn_showIpv4 (a : Nat) :
    Text.splitOn '.' (showIpv4 a) = (ipv4Bytes a).map Text.decimal := by
  have hdot (n : Nat) : '.' ∉ Text.decimal n := Text.notMem_decimal rfl n
  simp only [showIpv4, ipv4Bytes, List.map_cons, List.map_nil, Text.join, List.append_assoc,
    List.cons_append, List.nil_append, Text.splitOn_append (hdot _), Text.splitOn_eq_self (hdot _)]

theorem endsInNumber_showIpv4 (a : Nat) : endsInNumber (showIpv4 a) = true := by
  have hnumber := ipv4Number_decimal (a % 256) (Nat.mod_lt _ (by decide))
  obtain ⟨c, rest, hlast⟩ : ∃ c rest, Text.decimal (a % 256) = c :: rest :=
    List.exists_cons_of_ne_nil Nat.toDigits_ne_nil
  rw [hlast] at hnumber
  simp [endsInNumber, splitOn_showIpv4, ipv4Bytes, hlast, hnumber]

/-- An address of four bytes is read back, up to the bits that are not written. -/
theorem readIpv4_showIpv4 (a : Nat) : readIpv4 (showIpv4 a) = some (a % UInt32.size) := by
  have hbyte (n : Nat) : ipv4Number (Text.decimal (n % 256)) = some (some (n % 256)) :=
    ipv4Number_decimal _ (Nat.mod_lt _ (by decide))
  have hne : Text.decimal (a % 256) ≠ [] := Nat.toDigits_ne_nil
  have hnumbers : ((ipv4Bytes a).map Text.decimal).mapM (fun l => (ipv4Number l).join) =
      some (ipv4Bytes a) := by
    simp [ipv4Bytes, hbyte]
  have hlast : ((ipv4Bytes a).map Text.decimal).getLast? ≠ some [] := by
    simp [ipv4Bytes, hne]
  have hsum : (((a >>> 24) % 256 * 256 + (a >>> 16) % 256) * 256 + (a >>> 8) % 256) <<< 8 + a % 256 =
      a % UInt32.size := by
    simp only [Nat.shiftRight_eq_div_pow, Nat.shiftLeft_eq, UInt32.size]
    omega
  have hsmall (n : Nat) : n % 256 ≤ 255 := Nat.le_of_lt_succ (Nat.mod_lt _ (by decide))
  simp only [readIpv4, splitOn_showIpv4, if_neg hlast, hnumbers]
  simp [ipv4Bytes, hsum, hsmall, Nat.mod_lt]

theorem showIpv4_mod (a : Nat) : showIpv4 (a % UInt32.size) = showIpv4 a := by
  have hbytes : ipv4Bytes (a % UInt32.size) = ipv4Bytes a := by
    simp only [ipv4Bytes, Nat.shiftRight_eq_div_pow, UInt32.size, List.cons.injEq, and_true]
    omega
  exact congrArg (fun bytes => Text.join ['.'] (bytes.map Text.decimal)) hbytes

/-- If a text is that of a host, then reading it gives a host with that text again. -/
def Host.ReadsBack (text : List Char) : Prop :=
  ∀ s h, readHost s = .ok h → h.text = text → ∃ h', readHost text = .ok h' ∧ h'.text = text

/-- A domain name that is read as a host is in ASCII, and it could not be an address of four bytes. -/
theorem domain_of_readHost {s name : List Char} (h : readHost s = .ok (.domain name)) :
    (∃ bytes, domainToAscii bytes = some name) ∧ endsInNumber name = false := by
  unfold readHost at h
  split at h
  · unfold readBracketed at h
    split at h
    · split at h <;> cases h
    · cases h
  · split at h
    · cases h
    · cases h
    · rename_i hname
      split at h
      · split at h <;> cases h
      · rename_i hnumber
        cases h
        exact ⟨⟨_, hname⟩, eq_false_of_ne_true hnumber⟩

theorem IsPlainName.readHost {name : List Char} (h : IsPlainName name) (hne : name ≠ []) :
    readHost name =
      if endsInNumber name then
        match readIpv4 name with
        | some a => .ok (.ipv4 a)
        | none => .error .badIpv4
      else .ok (.domain name) := by
  unfold Url.readHost
  split
  · exact absurd (h.allowed '[' List.mem_cons_self) (by decide)
  · rw [h.domainToAscii]
    split
    · rename_i hnone
      cases hnone
    · rename_i hempty
      cases hempty
      exact absurd rfl hne
    · rename_i hsome
      cases hsome
      rfl

/-- A plain name is read as itself if its end is not a number. -/
theorem IsPlainName.readHost_eq_domain {name : List Char} (h : IsPlainName name) (hne : name ≠ [])
    (hnumber : endsInNumber name = false) : Url.readHost name = .ok (.domain name) := by
  rw [h.readHost hne, hnumber]
  rfl

/-- A host that is written as a plain name is read back. It may also be an address of four bytes. -/
theorem IsPlainName.readsBack {name : List Char} (hplain : IsPlainName name) : Host.ReadsBack name := by
  intro s h hread htext
  rw [hplain.readHost (htext ▸ (isHostText_of_readHost hread).nonempty)]
  cases h with
  | domain name' =>
    have hname : name' = name := htext
    rw [hname] at hread
    rw [(domain_of_readHost hread).2]
    exact ⟨_, rfl, rfl⟩
  | ipv4 a =>
    have hname : showIpv4 a = name := htext
    rw [← hname, endsInNumber_showIpv4, if_pos rfl, readIpv4_showIpv4]
    exact ⟨_, rfl, showIpv4_mod a⟩
  | ipv6 pieces =>
    have hopen : '[' ∈ name := htext ▸ List.mem_cons_self
    exact absurd (hplain.allowed _ hopen) (by decide)

/-- The address of a page on a host that is read from its text. -/
theorem ofText_written {name path : List Char} {h : Host} (address : String)
    (hwritten : address.toList = "http".toList ++ ':' :: '/' :: '/' :: (name ++ path))
    (htext : IsHostText name) (hread : readHost name = .ok h) (hpath : IsPathText path) :
    ofText address = .ok ⟨"http".toList, true, [], none, some h, none,
      .segments (readSegments "http".toList [] (dropSlash true path)), none, none⟩ := by
  have hport : ∀ p, none = some p → p ≤ 65535 ∧ defaultPort "http".toList ≠ some p := by simp
  have hwhole := read_written (.inl rfl) htext none hpath
  rw [readAfterSlashes_append (.inl rfl) htext hread hport hpath, portText, List.append_nil] at hwhole
  rw [ofText, hwritten, hwhole]

/-- The address of a page on a host with a plain name. -/
theorem ofText_plain (address : String) (name path : List Char)
    (hwritten : address.toList = "http".toList ++ ':' :: '/' :: '/' :: (name ++ path))
    (hname : IsPlainName name) (hne : name ≠ []) (hnumber : endsInNumber name = false)
    (hpath : IsPathText path) :
    ofText address = .ok ⟨"http".toList, true, [], none, some (.domain name), none,
      .segments (readSegments "http".toList [] (dropSlash true path)), none, none⟩ := by
  have hread : readHost name = .ok (.domain name) := hname.readHost_eq_domain hne hnumber
  exact ofText_written address hwritten (isHostText_of_readHost hread) hread hpath

/-- A page on a host with a plain name, with the segments of its path. -/
def examplePage (segments : List (List Char)) : Url :=
  ⟨"http".toList, true, [], none, some (.domain "example.com".toList), none, .segments segments, none, none⟩

theorem ofText_exampleHome : ofText "http://example.com" = .ok (examplePage [[]]) := by
  have hread := ofText_plain "http://example.com" "example.com".toList [] (by simp) (by decide) (by decide)
    (by decide) (by decide)
  rw [hread, examplePage, dropSlash, readSegments_nil (.inl rfl)]

theorem ofText_examplePage (first : List Char) (rest : List (List Char))
    (hplain : (first :: rest).all isPlainSegment = true) :
    ofText (String.ofList ("http://example.com".toList ++ (Path.segments (first :: rest)).text)) =
      .ok (examplePage (first :: rest)) := by
  rw [List.all_eq_true] at hplain
  have hchars : ∀ segment ∈ first :: rest, ∀ c ∈ segment, isSegmentChar c = true := fun segment hsegment =>
    isSegmentChar_of_isPlainSegment (hplain segment hsegment)
  have hread := ofText_plain
    (String.ofList ("http://example.com".toList ++ (Path.segments (first :: rest)).text)) "example.com".toList
    (Path.segments (first :: rest)).text (by simp) (by decide) (by decide) (by decide) (isPathText_text hchars)
  rw [hread, examplePage, readSegments_text (.inl rfl) hchars fun segment hsegment =>
    isStep_of_isPlainSegment (hplain segment hsegment)]

theorem ofText_exampleRobots :
    ofText ("http://example.com" ++ "/robots.txt") = .ok (examplePage ["robots.txt".toList]) :=
  ofText_examplePage "robots.txt".toList [] (by decide)

end Url

end SiteTech
