import SiteTech.Http.Header
import SiteTech.Proofs.Table
import SiteTech.Proofs.Text.Utf8

namespace SiteTech.Http

/-- The values of the fields that set cookies, as they are among the header fields. -/
def setCookieTexts (table : Table String (List String)) : List String := (table.get? "set-cookie").getD []

/-- The cookies that texts set; a later one wins over an earlier one of its name. -/
def cookiesOf (texts : List String) : Table String String := Table.ofList (texts.filterMap parseSetCookie)

/-- Whether a character is one of plain text. -/
def isPlainChar (c : Char) : Bool := (32 ≤ c.toNat && c.toNat < 127) || c.toNat == 9

/-- Whether a text is plain. -/
def isPlainText (text : String) : Bool := text.toList.all isPlainChar

/-- A text is the last one of several that sets the cookie of a name. -/
def SetsLast (texts : List String) (text name value : String) : Prop :=
  ∃ front back, texts = front ++ text :: back ∧ parseSetCookie text = some (name, value) ∧
    ∀ later ∈ back, ∀ value', parseSetCookie later ≠ some (name, value')

theorem isPlainChar_ofNat_eq_false {n : Nat} (hn : 128 ≤ n) : isPlainChar (Char.ofNat n) = false := by
  by_cases hvalid : n.isValidChar
  · rw [Char.ofNat, dif_pos hvalid]
    show ((32 ≤ n && n < 127) || n == 9) = false
    simp only [Bool.or_eq_false_iff, Bool.and_eq_false_iff, decide_eq_false_iff_not, beq_eq_false_iff_ne]
    omega
  · rw [Char.ofNat, dif_neg hvalid]
    rfl

theorem isPlainChar_readSequence_eq_false {b : UInt8} (hb : 128 ≤ b.toNat) (rest : List UInt8) :
    isPlainChar ((Text.readSequence b rest).1.getD (Char.ofNat 0xfffd)) = false := by
  cases hread : (Text.readSequence b rest).1 with
  | none => rfl
  | some c =>
    obtain ⟨n, hn, rfl⟩ := Text.exists_of_readSequence hb hread
    exact isPlainChar_ofNat_eq_false hn

/-- Bytes are those of plain text exactly if the text that is read from them is plain. -/
theorem isPlainText_decodeLossy (bytes : List UInt8) :
    isPlainText (Text.decodeLossy bytes) = bytes.all isPlainByte := by
  rw [isPlainText, Text.decodeLossy, String.toList_ofList, List.all_map, Text.decode]
  induction bytes with
  | nil => rfl
  | cons b rest ih =>
    rw [Text.decodeFrom, List.all_cons, List.all_cons]
    by_cases hb : b.toNat < 128
    · have hread : Text.readSequence b rest = (some (Char.ofNat b.toNat), 0) := by
        rw [Text.readSequence, if_pos hb]
      have hchar : ∀ n < 128, (Char.ofNat n).toNat = n := by decide
      rw [hread, ih, Function.comp_apply, Option.getD_some, isPlainChar, hchar _ hb, isPlainByte]
    · -- Neither the byte nor what it is read as is plain, so that what follows does not count.
      have hbyte : isPlainByte b = false := by
        simp only [isPlainByte, Bool.or_eq_false_iff, Bool.and_eq_false_iff, decide_eq_false_iff_not,
          beq_eq_false_iff_ne]
        omega
      rw [Function.comp_apply, isPlainChar_readSequence_eq_false (Nat.le_of_not_lt hb), hbyte, Bool.false_and,
        Bool.false_and]

theorem plainText?_eq (h : Header) :
    h.plainText? = if isPlainText (Text.decodeLossy h.value) then some (Text.decodeLossy h.value) else none := by
  rw [Header.plainText?, isPlainText_decodeLossy]

private theorem getD_get?_foldl (headers : List Header) (table : Table String (List String)) (name : String) :
    ((headers.foldl (fun t h => t.alter (String.ofList h.name) fun old =>
        old.getD [] ++ [Text.decodeLossy h.value]) table).get? name).getD [] =
      (table.get? name).getD [] ++
        (headers.filter fun h => String.ofList h.name == name).map fun h => Text.decodeLossy h.value := by
  induction headers generalizing table with
  | nil => simp
  | cons h rest ih =>
    rw [List.foldl_cons, ih, List.filter_cons]
    by_cases hname : String.ofList h.name = name
    · simp [hname, Table.get?_alter_self]
    · simp [hname, Table.get?_alter_of_ne _ _ (Ne.symm hname)]

/-- The header table holds the values of a name in their order. -/
theorem setCookieTexts_headerTable (headers : List Header) :
    setCookieTexts (headerTable headers) =
      (headers.filter Header.setsCookie).map fun h => Text.decodeLossy h.value := by
  have hname : Header.setsCookie = fun h => String.ofList h.name == "set-cookie" := by
    funext h
    rw [Header.setsCookie, Bool.eq_iff_iff, beq_iff_eq, beq_iff_eq, ← String.ofList_inj, String.ofList_toList]
  rw [setCookieTexts, headerTable, getD_get?_foldl, hname]
  rfl

/-- The cookies of an answer are those that the plain values of its header table set. -/
theorem cookieTable_eq (headers : List Header) :
    cookieTable headers = cookiesOf ((setCookieTexts (headerTable headers)).filter isPlainText) := by
  have hplain : (fun h : Header => h.plainText?.bind parseSetCookie) =
      (fun text => if isPlainText text then parseSetCookie text else none) ∘ fun h => Text.decodeLossy h.value := by
    funext h
    rw [plainText?_eq, Function.comp_apply]
    split <;> rfl
  rw [cookieTable, cookiesOf, setCookieTexts_headerTable, hplain, ← List.filterMap_map, List.filterMap_filter]

/-- A cookie has the value that the last text sets that sets it at all. -/
theorem get?_cookiesOf {texts : List String} {name value : String} :
    (cookiesOf texts).get? name = some value ↔ ∃ text, SetsLast texts text name value :=
  Table.get?_ofList_filterMap_eq_some_iff

/-- A cookie is there exactly if some text sets it. -/
theorem contains_cookiesOf {texts : List String} {name : String} :
    (cookiesOf texts).contains name = true ↔ ∃ text ∈ texts, ∃ value, parseSetCookie text = some (name, value) :=
  Table.contains_ofList_filterMap_iff

theorem SetsLast.filter {texts : List String} {text name value : String} {p : String → Bool}
    (h : SetsLast texts text name value) (htext : p text = true) :
    SetsLast (texts.filter p) text name value := by
  obtain ⟨front, back, rfl, hsets, hlater⟩ := h
  refine ⟨front.filter p, back.filter p, ?_, hsets, fun later hmem => hlater later (List.mem_filter.1 hmem).1⟩
  rw [List.filter_append, List.filter_cons_of_pos htext]

/-- Leaving texts out changes no cookie exactly if those that set a cookie last agree with the ones that stay. -/
theorem cookiesOf_filter_eq_iff {texts : List String} {p : String → Bool} :
    cookiesOf (texts.filter p) = cookiesOf texts ↔
      ∀ text name value, SetsLast texts text name value →
        p text = true ∨ (cookiesOf (texts.filter p)).get? name = some value := by
  constructor
  · intro heq text name value hlast
    rw [heq, get?_cookiesOf]
    exact .inr ⟨text, hlast⟩
  · intro hagree
    refine Table.ext_get? fun name => ?_
    cases hall : (cookiesOf texts).get? name with
    | none =>
      rw [← Table.contains_eq_false_iff, Bool.eq_false_iff, ne_eq, contains_cookiesOf] at hall ⊢
      rintro ⟨text, htext, hsets⟩
      exact hall ⟨text, (List.mem_filter.1 htext).1, hsets⟩
    | some value =>
      obtain ⟨text, hlast⟩ := get?_cookiesOf.1 hall
      rcases hagree text name value hlast with htext | hsame
      · exact get?_cookiesOf.2 ⟨text, hlast.filter htext⟩
      · exact hsame

/-- The cookies of an answer are those that the plain values of its header table set. They are those of all the
values exactly if each value that sets a cookie last is plain, or agrees with the plain values on this cookie. A
cookie is missing if no plain value sets it. -/
theorem cookies_are_those_of_plain_values (headers : List Header) :
    cookieTable headers = cookiesOf ((setCookieTexts (headerTable headers)).filter isPlainText) ∧
      (cookieTable headers = cookiesOf (setCookieTexts (headerTable headers)) ↔
        ∀ text name value, SetsLast (setCookieTexts (headerTable headers)) text name value →
          isPlainText text = true ∨ (cookieTable headers).get? name = some value) ∧
      ∀ name, (cookieTable headers).contains name = true ↔
        ∃ text ∈ setCookieTexts (headerTable headers),
          isPlainText text = true ∧ ∃ value, parseSetCookie text = some (name, value) := by
  rw [cookieTable_eq]
  refine ⟨rfl, cookiesOf_filter_eq_iff, fun name => ?_⟩
  simp only [contains_cookiesOf, List.mem_filter, and_assoc]

/-- A field that sets a cookie to the letter e with an acute accent. -/
def accentedCookie : Header :=
  ⟨"set-cookie".toList, [0x6e, 0x61, 0x6d, 0x65, 0x3d, 0xc3, 0xa9]⟩

/-- The cookie is among the header fields and not among the cookies. -/
theorem accented_cookie_is_missing :
    setCookieTexts (headerTable [accentedCookie]) = ["name=\u00e9"] ∧
      parseSetCookie "name=\u00e9" = some ("name", "\u00e9") ∧
      (cookieTable [accentedCookie]).contains "name" = false := by
  decide

end SiteTech.Http
