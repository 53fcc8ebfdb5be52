import SiteTech.Text.Utf8
import Mathlib.Tactic.SplitIfs

namespace SiteTech.Text

private theorem toList_eq (bytes : ByteArray) : bytes.toList = bytes.data.toList := by
  have hloop (i : Nat) (done : List UInt8) :
      ByteArray.toList.loop bytes i done = done.reverse ++ bytes.data.toList.drop i := by
    fun_induction ByteArray.toList.loop bytes i done with
    | case1 i done hi ih =>
      have hsize : i < bytes.data.toList.length := hi
      have hget : bytes.get! i = bytes.data.toList[i] := by
        show bytes.data[i]! = _
        simp [getElem!_pos bytes.data i hi]
      rw [ih, List.drop_eq_getElem_cons hsize, hget]
      simp
    | case2 i done hi =>
      have hsize : bytes.data.toList.length ≤ i := Nat.le_of_not_lt hi
      rw [List.drop_eq_nil_of_le hsize, List.append_nil]
  rw [ByteArray.toList, hloop]
  rfl

/-- The bytes of a text are those of its characters. -/
theorem encode_ofList_eq_flatMap (s : List Char) :
    encode (String.ofList s) = s.flatMap String.utf8EncodeChar := by
  rw [encode, String.toUTF8_eq_toByteArray, String.toByteArray_ofList, List.utf8Encode, toList_eq,
    List.toList_data_toByteArray]

/-- Two characters are told apart by their own bytes, so that nothing after them counts. -/
theorem utf8EncodeChar_append_lt {c d : Char} (h : c < d) (s t : List UInt8) :
    String.utf8EncodeChar c ++ s < String.utf8EncodeChar d ++ t := by
  have hlt : c.val.toNat < d.val.toNat := h
  have hd : d.val.toNat < 1114112 := by
    have hvalid := d.valid
    simp only [UInt32.isValidChar, Nat.isValidChar] at hvalid
    omega
  have hdigits (v : Nat) : v / 4096 / 64 = v / 262144 ∧ v / 64 / 64 = v / 4096 :=
    ⟨Nat.div_div_eq_div_mul v 4096 64, Nat.div_div_eq_div_mul v 64 64⟩
  have hdigitsC := hdigits c.val.toNat
  have hdigitsD := hdigits d.val.toNat
  -- The first byte tells how many there are, and more of them belong to a later character.
  simp only [String.utf8EncodeChar]
  split_ifs <;> simp (disch := omega) only [List.cons_append, List.nil_append, List.cons_lt_cons_iff,
    UInt8.lt_iff_toNat_lt, ← UInt8.toNat_inj, UInt8.toNat_ofNat', Nat.mod_eq_of_lt] <;> omega

private theorem flatMap_utf8EncodeChar_lt {s t : List Char} (h : s < t) :
    s.flatMap String.utf8EncodeChar < t.flatMap String.utf8EncodeChar := by
  induction s generalizing t with
  | nil =>
    cases t with
    | nil => cases h
    | cons d t =>
      simp only [List.flatMap_nil, List.flatMap_cons, String.utf8EncodeChar]
      split_ifs <;> exact List.nil_lt_cons _ _
  | cons c s ih =>
    cases t with
    | nil => cases h
    | cons d t =>
      rw [List.flatMap_cons, List.flatMap_cons]
      rcases List.cons_lt_cons_iff.1 h with hlt | ⟨rfl, hrest⟩
      · exact utf8EncodeChar_append_lt hlt _ _
      · exact List.append_left_lt (ih hrest)

/-- A text that is before another one has bytes before those of the other one. -/
theorem encode_lt_encode {a b : String} (h : a < b) : encode a < encode b := by
  have hbytes : a.toList.flatMap String.utf8EncodeChar < b.toList.flatMap String.utf8EncodeChar :=
    flatMap_utf8EncodeChar_lt h
  rwa [← encode_ofList_eq_flatMap, ← encode_ofList_eq_flatMap, String.ofList_toList, String.ofList_toList] at hbytes

/-- The bytes of a text of ASCII characters are the numbers of the characters. -/
theorem encode_ofList {s : List Char} (h : ∀ c ∈ s, c.toNat < 128) :
    encode (String.ofList s) = s.map fun c => UInt8.ofNat c.toNat := by
  have hchar : ∀ c ∈ s, String.utf8EncodeChar c = [UInt8.ofNat c.toNat] := fun c hc =>
    if_pos (Nat.le_of_lt_succ (h c hc))
  rw [encode_ofList_eq_flatMap]
  induction s with
  | nil => rfl
  | cons c s ih =>
    rw [List.flatMap_cons, hchar c List.mem_cons_self,
      ih (fun c hc => h c (List.mem_cons_of_mem _ hc)) fun c hc => hchar c (List.mem_cons_of_mem _ hc)]
    rfl

/-- Bytes below 128 are the characters of a text. -/
theorem decode_map_ofNat {s : List Char} (h : ∀ c ∈ s, c.toNat < 128) :
    decode (s.map fun c => UInt8.ofNat c.toNat) = s.map some := by
  rw [decode]
  induction s with
  | nil => rfl
  | cons c s ih =>
    have hc := h c List.mem_cons_self
    have hbyte : (UInt8.ofNat c.toNat).toNat = c.toNat := by
      rw [UInt8.toNat_ofNat']
      omega
    rw [List.map_cons, decodeFrom, readSequence, hbyte, if_pos hc, Char.ofNat_toNat, List.map_cons]
    exact congrArg (some c :: ·) (ih fun c hc => h c (List.mem_cons_of_mem _ hc))

theorem byteIn_iff {lo hi : Nat} {b : UInt8} : byteIn lo hi b = true ↔ lo ≤ b.toNat ∧ b.toNat ≤ hi := by
  simp [byteIn]

private theorem exists_of_readTwo {b : UInt8} {rest : List UInt8} {c : Char}
    (h : (readTwo b rest).1 = some c) : ∃ n, c = Char.ofNat (b.toNat % 32 * 64 + n) := by
  unfold readTwo at h
  split at h
  · split at h
    · cases h
      exact ⟨_, rfl⟩
    · cases h
  · cases h

private theorem exists_of_readThree {lo hi : Nat} {b : UInt8} {rest : List UInt8} {c : Char}
    (h : (readThree lo hi b rest).1 = some c) :
    ∃ d n, byteIn lo hi d = true ∧ c = Char.ofNat (b.toNat % 16 * 4096 + tailBits d * 64 + n) := by
  unfold readThree at h
  split at h
  · split at h
    · rename_i hd
      split at h
      · split at h
        · cases h
          exact ⟨_, _, hd, rfl⟩
        · cases h
      · cases h
    · cases h
  · cases h

private theorem exists_of_readFour {lo hi : Nat} {b : UInt8} {rest : List UInt8} {c : Char}
    (h : (readFour lo hi b rest).1 = some c) :
    ∃ d n, byteIn lo hi d = true ∧ c = Char.ofNat (b.toNat % 8 * 262144 + tailBits d * 4096 + n) := by
  unfold readFour at h
  split at h
  · split at h
    · rename_i hd
      split at h
      · split at h
        · split at h
          · split at h
            · cases h
              exact ⟨_, _, hd, by rw [Nat.add_assoc]⟩
            · cases h
          · cases h
        · cases h
      · cases h
    · cases h
  · cases h

/-- A sequence that starts with a byte outside ASCII writes no character of ASCII. -/
theorem exists_of_readSequence {b : UInt8} (hb : 128 ≤ b.toNat) {rest : List UInt8} {c : Char}
    (h : (readSequence b rest).1 = some c) : ∃ n, 128 ≤ n ∧ c = Char.ofNat n := by
  unfold readSequence at h
  split at h
  · omega
  split at h
  · rename_i hlead
    rw [byteIn_iff] at hlead
    obtain ⟨n, rfl⟩ := exists_of_readTwo h
    exact ⟨_, by omega, rfl⟩
  split at h
  · -- The lead byte has no bits of its own, but the byte after it is large.
    obtain ⟨d, n, hd, rfl⟩ := exists_of_readThree h
    rw [byteIn_iff] at hd
    exact ⟨_, by simp only [tailBits]; omega, rfl⟩
  split at h
  · obtain ⟨d, n, -, rfl⟩ := exists_of_readThree h
    exact ⟨_, by omega, rfl⟩
  split at h
  · rename_i hlead
    rw [byteIn_iff] at hlead
    obtain ⟨d, n, -, rfl⟩ := exists_of_readThree h
    exact ⟨_, by omega, rfl⟩
  split at h
  · obtain ⟨d, n, hd, rfl⟩ := exists_of_readFour h
    rw [byteIn_iff] at hd
    exact ⟨_, by simp only [tailBits]; omega, rfl⟩
  split at h
  · rename_i hlead
    rw [byteIn_iff] at hlead
    obtain ⟨d, n, -, rfl⟩ := exists_of_readFour h
    exact ⟨_, by omega, rfl⟩
  split at h
  · obtain ⟨d, n, -, rfl⟩ := exists_of_readFour h
    exact ⟨_, by omega, rfl⟩
  · cases h

end SiteTech.Text
