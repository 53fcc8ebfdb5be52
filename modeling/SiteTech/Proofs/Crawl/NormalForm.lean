import SiteTech.Proofs.Crawl.Admission
import SiteTech.Proofs.Text.Trim
import SiteTech.Proofs.Text.Word

namespace SiteTech

namespace Text

theorem length_trimList_le (s : List Char) : (trimList s).length ≤ s.length := by
  obtain ⟨front, back, hs⟩ := exists_eq_trimList s
  have hlength := congrArg List.length hs
  simp only [List.length_append] at hlength
  omega

/-- A text is what is left without the slashes at its end, with these slashes. -/
theorem exists_eq_dropTrailingSlashes (s : List Char) : ∃ n, s = dropTrailingSlashes s ++ List.replicate n '/' := by
  obtain ⟨slashes, hs, hslashes⟩ := exists_eq_dropEndWhile (· == '/') s
  have hreplicate := List.eq_replicate_of_mem fun c hc => beq_iff_eq.1 (hslashes c hc)
  rw [hreplicate] at hs
  exact ⟨slashes.length, hs⟩

/-- Dropping blanks and then slashes changes nothing exactly if neither does. -/
theorem dropTrailingSlashes_trimList_eq_self_iff {s : List Char} :
    dropTrailingSlashes (trimList s) = s ↔ trimList s = s ∧ dropTrailingSlashes s = s := by
  constructor
  · intro hsame
    have hprefix : dropTrailingSlashes (trimList s) <+: trimList s := dropEndWhile_prefix _ _
    rw [hsame] at hprefix
    have htrim := hprefix.eq_of_length_le (length_trimList_le s)
    rw [← htrim] at hsame
    exact ⟨htrim.symm, hsame⟩
  · rintro ⟨htrim, hslash⟩
    rw [htrim, hslash]

/-- A text has a blank before the slashes at its end, and something else than blanks before this one. More blanks may
come after the slashes. -/
def BlankBeforeSlashes (s : List Char) : Prop :=
  ∃ (front : List Char) (c : Char) (n : Nat) (back : Blanks),
    s = front ++ c :: List.replicate (n + 1) '/' ++ back.1 ∧ isBlank c = true ∧ ∃ d ∈ front, isBlank d = false

/-- Of the end, only the blank before the slashes is left. -/
theorem dropTrailingSlashes_trimList_append {front : List Char} {c : Char} (hc : isBlank c = true)
    (hfront : ∃ d ∈ front, isBlank d = false) (n : Nat) (back : Blanks) :
    dropTrailingSlashes (trimList (front ++ c :: List.replicate (n + 1) '/' ++ back.1)) =
      front.dropWhile isBlank ++ [c] := by
  have hvisible : (front.dropWhile isBlank).isEmpty = false := by
    obtain ⟨d, hd, hvisible⟩ := hfront
    rw [Bool.eq_false_iff, ne_eq, List.isEmpty_iff, List.dropWhile_eq_nil_iff]
    intro hblank
    rw [hblank d hd] at hvisible
    cases hvisible
  have hlast : front ++ c :: List.replicate (n + 1) '/' = (front ++ c :: List.replicate n '/') ++ ['/'] := by
    rw [List.replicate_succ', List.append_assoc, List.cons_append]
  have htrim : trimList (front ++ c :: List.replicate (n + 1) '/') =
      front.dropWhile isBlank ++ c :: List.replicate (n + 1) '/' := by
    rw [hlast, trimList_append_cons (by decide), List.dropWhile_append, hvisible, List.replicate_succ']
    simp [dropEndWhile]
  have hne : (c == '/') = false := by
    rw [beq_eq_false_iff_ne]
    rintro rfl
    cases hc
  have hslashes : dropEndWhile (· == '/') (List.replicate (n + 1) '/') = [] := by simp [dropEndWhile]
  have hblanks := trimList_append ⟨[], by simp⟩ back (front ++ c :: List.replicate (n + 1) '/')
  rw [List.nil_append] at hblanks
  rw [hblanks, htrim, dropTrailingSlashes, dropEndWhile_append (p := (· == '/')) hne, hslashes]

/-- What is left without blanks and then slashes ends with a blank exactly if one stood before the slashes. -/
theorem blankBeforeSlashes_iff {s : List Char} :
    BlankBeforeSlashes s ↔ ∃ c ∈ (dropTrailingSlashes (trimList s)).getLast?, isBlank c = true := by
  constructor
  · rintro ⟨front, c, n, back, rfl, hc, hfront⟩
    rw [dropTrailingSlashes_trimList_append hc hfront, List.getLast?_concat]
    exact ⟨c, rfl, hc⟩
  · rintro ⟨c, hlast, hc⟩
    obtain ⟨first, back, hs⟩ := exists_eq_trimList s
    obtain ⟨n, htrim⟩ := exists_eq_dropTrailingSlashes (trimList s)
    obtain ⟨rest, hrest⟩ := List.getLast?_eq_some_iff.1 hlast
    cases n with
    | zero =>
      -- Without slashes, the blank would have gone.
      rw [List.replicate_zero, List.append_nil] at htrim
      rw [← htrim] at hlast
      rw [eq_false_of_mem_getLast?_dropEndWhile hlast] at hc
      cases hc
    | succ n =>
      have hvisible : ∀ d ∈ (rest ++ [c]).head?, isBlank d = false := fun d hd =>
        isBlank_of_mem_head?_trimList (mem_head?_of_mem_head?_dropEndWhile (hrest ▸ hd))
      cases rest with
      | nil =>
        rw [hvisible c rfl] at hc
        cases hc
      | cons d rest =>
        refine ⟨first.1 ++ d :: rest, c, n, back, ?_, hc, d, by simp, hvisible d rfl⟩
        rw [hrest] at htrim
        rw [hs, htrim]
        simp

end Text

namespace Address

theorem toList_normalize (address : String) :
    (normalize address).toList = Text.dropTrailingSlashes (Text.trimList address.toList) := by
  rw [normalize, String.toList_ofList]

theorem isBlank_of_mem_head?_normalize {address : String} (c : Char) (hc : c ∈ (normalize address).toList.head?) :
    Text.isBlank c = false := by
  rw [toList_normalize] at hc
  exact Text.isBlank_of_mem_head?_trimList (Text.mem_head?_of_mem_head?_dropEndWhile hc)

/-- The form of an address is its own form exactly if it does not end with a blank. -/
theorem normalize_normalize_iff {address : String} :
    normalize (normalize address) = normalize address ↔
      ∀ c ∈ (normalize address).toList.getLast?, Text.isBlank c = false := by
  have hslash : Text.dropTrailingSlashes (normalize address).toList = (normalize address).toList := by
    rw [toList_normalize]
    exact List.rdropWhile_idempotent _ _
  rw [← String.toList_inj, toList_normalize (normalize address), Text.dropTrailingSlashes_trimList_eq_self_iff,
    Text.trimList_eq_self_iff]
  simp only [hslash, and_true]
  exact ⟨fun h => h.2, fun h => ⟨isBlank_of_mem_head?_normalize, h⟩⟩

/-- No character of an address is a blank. -/
theorem isBlank_of_isRestChar {c : Char} (hc : isRestChar c = true) : Text.isBlank c = false := by
  rw [Bool.eq_false_iff]
  intro hblank
  rw [isRestChar, isHostChar, Text.isWord_of_isBlank hblank, Bool.false_or, Bool.or_eq_true, Bool.or_eq_true] at hc
  rcases hc with (hdot | hdash) | hmark
  · cases beq_iff_eq.1 hdot
    cases hblank
  · cases beq_iff_eq.1 hdash
    cases hblank
  · have hmem := List.contains_iff_mem.1 hmark
    have hnone := List.all_eq_true (p := (!Text.isBlank ·)).1 (by decide) c hmem
    rw [hblank] at hnone
    cases hnone

theorem dropScheme_suffix (s : List Char) : dropScheme s <:+ s := by
  rw [dropScheme]
  split
  · exact List.drop_suffix 7 s
  · split
    · exact List.drop_suffix 8 s
    · exact List.suffix_rfl

/-- What passes for an address does not end with a blank. -/
theorem isBlank_of_mem_getLast? {address : String} (hvalid : isValid address = true) {c : Char}
    (hc : c ∈ address.toList.getLast?) : Text.isBlank c = false := by
  obtain ⟨hchars, i, -, hlong⟩ := accepts_iff.1 hvalid
  have hne : dropScheme address.toList ≠ [] := by
    intro hnil
    rw [hnil, List.length_nil] at hlong
    omega
  obtain ⟨scheme, hscheme⟩ := dropScheme_suffix address.toList
  rw [← hscheme, List.getLast?_append_of_ne_nil scheme hne] at hc
  exact isBlank_of_isRestChar (hchars c (List.mem_of_getLast? hc))

/-- The form under which a page counts as visited is the address without blanks around it and slashes at its end. It
never ends with a slash or begins with a blank. It ends with a blank exactly if the address has a blank before the
slashes at its end, and exactly then it is not final: its own form is another one. Then it does not pass for an
address either. -/
theorem normalize_is_final_unless_blank (address : String) :
    (∃ (front back : Text.Blanks) (n : Nat),
        address.toList = front.1 ++ (normalize address).toList ++ List.replicate n '/' ++ back.1) ∧
      (normalize address).toList.getLast? ≠ some '/' ∧
      (∀ c ∈ (normalize address).toList.head?, Text.isBlank c = false) ∧
      ((∃ c ∈ (normalize address).toList.getLast?, Text.isBlank c = true) ↔
        Text.BlankBeforeSlashes address.toList) ∧
      (normalize (normalize address) = normalize address ↔ ¬ Text.BlankBeforeSlashes address.toList) ∧
      (isValid (normalize address) = true → normalize (normalize address) = normalize address) := by
  have hends : (∃ c ∈ (normalize address).toList.getLast?, Text.isBlank c = true) ↔
      Text.BlankBeforeSlashes address.toList := by
    rw [toList_normalize, Text.blankBeforeSlashes_iff]
  refine ⟨?_, ?_, isBlank_of_mem_head?_normalize, hends, ?_, fun hvalid => ?_⟩
  · obtain ⟨front, back, htrim⟩ := Text.exists_eq_trimList address.toList
    obtain ⟨n, hslashes⟩ := Text.exists_eq_dropTrailingSlashes (Text.trimList address.toList)
    refine ⟨front, back, n, ?_⟩
    rw [toList_normalize, List.append_assoc front.1, ← hslashes, ← htrim]
  · rw [toList_normalize]
    exact Text.getLast?_dropTrailingSlashes_ne _
  · rw [← hends, normalize_normalize_iff]
    simp
  · exact normalize_normalize_iff.2 fun c hc => isBlank_of_mem_getLast? hvalid hc

theorem normalize_slashes_is_final :
    isValid (normalize " http://example.com/a// ") = true ∧
      normalize (normalize " http://example.com/a// ") = normalize " http://example.com/a// " := by
  have hvalid : isValid (normalize " http://example.com/a// ") = true := by decide
  obtain ⟨-, -, -, -, -, hfinal⟩ := normalize_is_final_unless_blank " http://example.com/a// "
  exact ⟨hvalid, hfinal hvalid⟩

/-- A blank before the last slash comes to stand at the end of the form. So the form does not pass for an address,
though its own form does. -/
theorem normalize_leaves_blank :
    normalize "http://example.com /" = "http://example.com " ∧
      normalize (normalize "http://example.com /") = "http://example.com" ∧
      isValid (normalize "http://example.com /") = false ∧
      isValid (normalize (normalize "http://example.com /")) = true := by
  decide

end Address

end SiteTech
