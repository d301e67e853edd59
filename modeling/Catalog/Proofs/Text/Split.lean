import Mathlib.Tactic.Common
import Catalog.Text.Split

/-!
Texts and their pieces. To cut a text at a separator and to put it together again are inverse, as
long as no piece holds the separator.
-/

namespace Catalog.Text

variable {sep : Char}

/-- The characters of a text are those of its pieces and the separators. -/
lemma not_mem_pieces (cs : List Char) : ∀ piece ∈ pieces sep cs, sep ∉ piece := by
  induction cs with
  | nil => simp [pieces]
  | cons c cs ih =>
    obtain ⟨piece, rest, hpieces⟩ := List.exists_cons_of_ne_nil (pieces_ne_nil sep cs)
    rw [hpieces] at ih
    by_cases hc : c = sep
    · simpa [pieces, hc, hpieces] using ih
    · simpa [pieces, hc, hpieces, Ne.symm hc] using ih

lemma pieces_eq_splitOn (sep : Char) (cs : List Char) : pieces sep cs = cs.splitOn sep := by
  induction cs with
  | nil => rfl
  | cons c cs ih =>
    obtain ⟨piece, rest, hpieces⟩ := List.exists_cons_of_ne_nil (pieces_ne_nil sep cs)
    rw [List.splitOn_eq_splitOnP, List.splitOnP_cons_eq_if_modifyHead, ← List.splitOn_eq_splitOnP,
      ← ih, pieces, hpieces]
    simp

lemma splitAt_ne_nil (sep : Char) (s : String) : splitAt sep s ≠ [] :=
  mt List.map_eq_nil_iff.mp (pieces_ne_nil sep s.toList)

/-- A text is its pieces, with the separator between neighbours. -/
lemma intercalate_splitAt (sep : Char) (s : String) :
    (String.singleton sep).intercalate (splitAt sep s) = s := by
  have hpieces : (splitAt sep s).map String.toList = s.toList.splitOn sep := by
    simp [splitAt, pieces_eq_splitOn, Function.comp_def]
  rw [← String.toList_inj, String.toList_intercalate, hpieces, String.toList_singleton,
    List.intercalate_splitOn]

/-- The pieces determine the text. -/
lemma splitAt_inj {s t : String} (h : splitAt sep s = splitAt sep t) : s = t :=
  Function.LeftInverse.injective (intercalate_splitAt sep) h

/-- Words without the separator are the pieces of the text that they make. -/
lemma splitAt_intercalate {words : List String} (hne : words ≠ [])
    (h : ∀ w ∈ words, sep ∉ w.toList) :
    splitAt sep ((String.singleton sep).intercalate words) = words := by
  have hwords : ∀ cs ∈ words.map String.toList, sep ∉ cs := List.forall_mem_map.mpr h
  rw [splitAt, pieces_eq_splitOn, String.toList_intercalate, String.toList_singleton,
    List.splitOn_intercalate sep hwords (by simpa using hne)]
  simp [Function.comp_def]

end Catalog.Text
