import SiteTech.Text.Packed
import Mathlib.Data.List.Flatten

namespace SiteTech.Text

/-- A text is put together from lines, which are given in reverse. -/
def IsJoinedFrom (text : String) (lines : List (List Char)) : Prop := text.toList = lines.reverse.flatten

theorem IsJoinedFrom.line (line : List Char) : IsJoinedFrom (String.ofList line) [line] := by
  simp [IsJoinedFrom]

theorem IsJoinedFrom.append (line : List Char) {text : String} {lines : List (List Char)}
    (h : IsJoinedFrom text lines) : IsJoinedFrom (text ++ String.ofList line) (line :: lines) := by
  rw [IsJoinedFrom] at h ⊢
  rw [String.toList_append, h, String.toList_ofList, List.reverse_cons, List.flatten_concat]

/-- The rows of a table that is given in lines. -/
def rowsOfLines (lines : List (List Char)) : List (List Nat) :=
  (lines.foldr (fun line read => line.foldl Packed.step read) (Packed.mk [] [] 0)).close.rows.reverse

theorem IsJoinedFrom.packedRows_eq {text : String} {lines : List (List Char)} (h : IsJoinedFrom text lines) :
    packedRows text = rowsOfLines lines := by
  rw [packedRows, rowsOfLines, String.foldl_eq_foldl_toList, h, List.foldl_flatten, List.foldl_reverse]

/-- What holds of the rows that are read line by line holds of the table. -/
theorem IsJoinedFrom.of_rowsOfLines {P : List (List Nat) → Prop} {text : String} {lines : List (List Char)}
    (h : IsJoinedFrom text lines) (hrows : P (rowsOfLines lines)) : P (packedRows text) :=
  h.packedRows_eq ▸ hrows

end SiteTech.Text
