import SiteTech.Http.Header
import SiteTech.Proofs.Text.Pieces
import SiteTech.Proofs.Text.Trim

namespace SiteTech.Http

/-- The name and the value of a cookie as a field can set them. -/
structure CookiePair where
  name : List Char
  value : List Char
  name_ne_nil : name ≠ []
  trimList_name : Text.trimList name = name
  equals_notMem_name : '=' ∉ name
  semicolon_notMem_name : ';' ∉ name
  trimList_value : Text.trimList value = value
  semicolon_notMem_value : ';' ∉ value

/-- The blanks around the name and the value of a cookie. -/
structure CookieSpacing where
  beforeName : Text.Blanks
  afterName : Text.Blanks
  beforeValue : Text.Blanks
  afterValue : Text.Blanks

namespace CookiePair

variable (p : CookiePair) (spacing : CookieSpacing)

/-- What is written before the equals sign. -/
def nameText : List Char := spacing.beforeName.1 ++ p.name ++ spacing.afterName.1

/-- What is written after the equals sign. -/
def valueText : List Char := spacing.beforeValue.1 ++ p.value ++ spacing.afterValue.1

/-- Writes a cookie, alone or with attributes behind a semicolon. -/
def write (attributes : Option (List Char)) : List Char :=
  p.nameText spacing ++ '=' :: p.valueText spacing ++ attributes.elim [] (';' :: ·)

end CookiePair

/-- A character that is no blank is not among blanks. -/
theorem notMem_blanks {c : Char} (hc : Text.isBlank c = false) (blanks : Text.Blanks) : c ∉ blanks.1 := by
  intro hmem
  rw [blanks.2 c hmem] at hc
  cases hc

/-- Trimming the pair before it is cut changes nothing, as both sides are trimmed anyway. -/
theorem parseSetCookie_eq (raw : String) :
    parseSetCookie raw =
      (Text.splitOnce '=' (Text.before ';' raw.toList)).bind fun sides =>
        if Text.trimList sides.1 = [] then none
        else some (String.ofList (Text.lowerList (Text.trimList sides.1)), String.ofList (Text.trimList sides.2)) := by
  rw [parseSetCookie]
  generalize Text.before ';' raw.toList = pair
  cases hsplit : Text.splitOnce '=' pair with
  | none =>
    have hnone : Text.splitOnce '=' (Text.trimList pair) = none :=
      Text.splitOnce_eq_none_iff.2 fun hmem => Text.splitOnce_eq_none_iff.1 hsplit (Text.mem_of_mem_trimList hmem)
    rw [hnone, Option.bind_none]
  | some sides =>
    obtain ⟨name, value⟩ := sides
    obtain ⟨rfl, hname⟩ := Text.splitOnce_eq_some_iff.1 hsplit
    have htrimmed : Text.splitOnce '=' (Text.trimList (name ++ '=' :: value)) =
        some (name.dropWhile Text.isBlank, Text.dropEndWhile Text.isBlank value) :=
      Text.splitOnce_eq_some_iff.2 ⟨Text.trimList_append_cons rfl name value,
        fun hmem => hname (List.dropWhile_subset _ hmem)⟩
    simp only [htrimmed, Option.bind_some, Text.trimList_dropWhile, Text.trimList_dropEndWhile, List.isEmpty_iff]

/-- A text sets no cookie exactly if there is no equals sign before its first semicolon, or no name before that
sign. -/
theorem parseSetCookie_eq_none_iff {raw : String} :
    parseSetCookie raw = none ↔
      '=' ∉ Text.before ';' raw.toList ∨
        ∀ c ∈ Text.before '=' (Text.before ';' raw.toList), Text.isBlank c = true := by
  rw [parseSetCookie_eq]
  generalize Text.before ';' raw.toList = pair
  cases hsplit : Text.splitOnce '=' pair with
  | none => simp [Text.splitOnce_eq_none_iff.1 hsplit]
  | some sides =>
    obtain ⟨name, value⟩ := sides
    obtain ⟨rfl, hname⟩ := Text.splitOnce_eq_some_iff.1 hsplit
    rw [Text.before_append hname, ← Text.trimList_eq_nil_iff]
    simp

namespace CookiePair

variable (p : CookiePair) (spacing : CookieSpacing)

theorem trimList_nameText : Text.trimList (p.nameText spacing) = p.name := by
  rw [nameText, Text.trimList_append, p.trimList_name]

theorem trimList_valueText : Text.trimList (p.valueText spacing) = p.value := by
  rw [valueText, Text.trimList_append, p.trimList_value]

theorem equals_notMem_nameText : '=' ∉ p.nameText spacing := by
  simp [nameText, notMem_blanks, p.equals_notMem_name, Text.isBlank]

theorem semicolon_notMem_pair : ';' ∉ p.nameText spacing ++ '=' :: p.valueText spacing := by
  simp [nameText, valueText, notMem_blanks, p.semicolon_notMem_name, p.semicolon_notMem_value, Text.isBlank]

/-- The attributes are left out. -/
theorem before_write (attributes : Option (List Char)) :
    Text.before ';' (p.write spacing attributes) = p.nameText spacing ++ '=' :: p.valueText spacing := by
  cases attributes with
  | none =>
    rw [write, Option.elim_none, List.append_nil]
    exact Text.before_eq_self (p.semicolon_notMem_pair spacing)
  | some attributes => exact Text.before_append (p.semicolon_notMem_pair spacing) attributes

/-- What is written is read again, with the name in lower case. -/
theorem parseSetCookie_write (attributes : Option (List Char)) :
    parseSetCookie (String.ofList (p.write spacing attributes)) =
      some (String.ofList (Text.lowerList p.name), String.ofList p.value) := by
  have hsplit : Text.splitOnce '=' (p.nameText spacing ++ '=' :: p.valueText spacing) =
      some (p.nameText spacing, p.valueText spacing) :=
    Text.splitOnce_eq_some_iff.2 ⟨rfl, p.equals_notMem_nameText spacing⟩
  rw [parseSetCookie_eq, String.toList_ofList, before_write, hsplit, Option.bind_some, trimList_nameText,
    trimList_valueText, if_neg p.name_ne_nil]

end CookiePair

/-- What is read as a cookie was written like one. -/
theorem exists_pair_of_parseSetCookie {raw name value : String} (h : parseSetCookie raw = some (name, value)) :
    ∃ (p : CookiePair) (spacing : CookieSpacing) (attributes : Option (List Char)),
      raw.toList = p.write spacing attributes ∧ name = String.ofList (Text.lowerList p.name) ∧
        value = String.ofList p.value := by
  rw [parseSetCookie_eq] at h
  obtain ⟨⟨nameText, valueText⟩, hsplit, h⟩ := Option.bind_eq_some_iff.1 h
  obtain ⟨hne, hpair⟩ := Option.ite_none_left_eq_some.1 h
  cases hpair
  obtain ⟨hwritten, hequals⟩ := Text.splitOnce_eq_some_iff.1 hsplit
  obtain ⟨beforeName, afterName, hname⟩ := Text.exists_eq_trimList nameText
  obtain ⟨beforeValue, afterValue, hvalue⟩ := Text.exists_eq_trimList valueText
  obtain ⟨attributes, hraw⟩ := Text.exists_eq_before ';' raw.toList
  have hsemicolon : ';' ∉ nameText ++ '=' :: valueText := hwritten ▸ Text.notMem_before ';' raw.toList
  rw [List.mem_append, not_or, List.mem_cons, not_or] at hsemicolon
  let p : CookiePair :=
    { name := Text.trimList nameText
      value := Text.trimList valueText
      name_ne_nil := hne
      trimList_name := Text.trimList_trimList nameText
      equals_notMem_name := fun hmem => hequals (Text.mem_of_mem_trimList hmem)
      semicolon_notMem_name := fun hmem => hsemicolon.1 (Text.mem_of_mem_trimList hmem)
      trimList_value := Text.trimList_trimList valueText
      semicolon_notMem_value := fun hmem => hsemicolon.2.2 (Text.mem_of_mem_trimList hmem) }
  refine ⟨p, ⟨beforeName, afterName, beforeValue, afterValue⟩, attributes, ?_, rfl, rfl⟩
  rw [CookiePair.write, CookiePair.nameText, CookiePair.valueText, ← hname, ← hvalue, ← hwritten, ← hraw]

/-- A text sets no cookie exactly if there is no equals sign before its first semicolon, or no name before that
sign. A cookie that is written with blanks around its name and its value, alone or with attributes, is read as its
name in lower case and its value, and only what is written like this is read as a cookie. -/
theorem parseSetCookie_inverts_write :
    (∀ raw : String, parseSetCookie raw = none ↔
      '=' ∉ Text.before ';' raw.toList ∨
        ∀ c ∈ Text.before '=' (Text.before ';' raw.toList), Text.isBlank c = true) ∧
    (∀ (p : CookiePair) (spacing : CookieSpacing) (attributes : Option (List Char)),
      parseSetCookie (String.ofList (p.write spacing attributes)) =
        some (String.ofList (Text.lowerList p.name), String.ofList p.value)) ∧
    ∀ raw name value : String, parseSetCookie raw = some (name, value) →
      ∃ (p : CookiePair) (spacing : CookieSpacing) (attributes : Option (List Char)),
        raw.toList = p.write spacing attributes ∧ name = String.ofList (Text.lowerList p.name) ∧
          value = String.ofList p.value :=
  ⟨fun _ => parseSetCookie_eq_none_iff, CookiePair.parseSetCookie_write, fun _ _ _ => exists_pair_of_parseSetCookie⟩

/-- Blanks and attributes do not count, and the value keeps the equals signs that it ends with. -/
example : parseSetCookie " SID =\tMTIz==  ; Path=/" = some ("sid", "MTIz==") := by decide

end SiteTech.Http
