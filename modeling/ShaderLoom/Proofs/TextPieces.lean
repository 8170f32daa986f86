import Mathlib.Data.List.Basic
import ShaderLoom.Text.Lines

/-!
# Pieces of a text

`Text.splitOn` is `List.splitOn` (`splitOn_eq`), from which its laws follow. Cutting a text at every
occurrence of a mark and putting the pieces together with the mark between them undo each other,
except that pieces which hold the mark themselves are cut further.
-/

namespace ShaderLoom.Text

variable (mark : Char)

/-- Texts are cut as lists are. -/
lemma splitOn_eq (text : List Char) : splitOn mark text = text.splitOn mark := by
  induction text with
  | nil => exact (List.splitOn_nil mark).symm
  | cons c rest ih =>
    obtain ⟨first, pieces, hsplit⟩ := List.exists_cons_of_ne_nil (List.splitOn_ne_nil mark rest)
    rw [splitOn, ih, List.splitOn_cons_eq_if_modifyHead, hsplit]
    by_cases hc : c = mark
    · rw [if_pos hc, if_pos (beq_iff_eq.mpr hc)]
    · rw [if_neg hc, if_neg (fun h => hc (beq_iff_eq.mp h)), List.modifyHead_cons]

/-- Every text has a piece. -/
lemma splitOn_ne_nil (text : List Char) : splitOn mark text ≠ [] := by
  rw [splitOn_eq]
  exact List.splitOn_ne_nil mark text

/-- The mark ends a piece. -/
lemma splitOn_mark_cons (text : List Char) :
    splitOn mark (mark :: text) = [] :: splitOn mark text := by
  rw [splitOn, if_pos rfl]

variable {mark}

/-- A text without the mark is one piece. -/
lemma splitOn_of_not_mem {text : List Char} (h : mark ∉ text) : splitOn mark text = [text] := by
  rw [splitOn_eq]
  exact List.splitOn_eq_singleton h

/-- A piece does not hold the mark. -/
lemma not_mem_of_mem_splitOn {text piece : List Char} (h : piece ∈ splitOn mark text) :
    mark ∉ piece := by
  induction text generalizing piece with
  | nil =>
    rw [splitOn, List.mem_singleton] at h
    simp [h]
  | cons c text ih =>
    obtain ⟨first, rest, hsplit⟩ := List.exists_cons_of_ne_nil (splitOn_ne_nil mark text)
    rw [splitOn, hsplit] at h
    rw [hsplit] at ih
    by_cases hc : c = mark
    · rw [if_pos hc] at h
      rcases List.mem_cons.mp h with rfl | h
      · exact List.not_mem_nil
      · exact ih h
    · rw [if_neg hc] at h
      rcases List.mem_cons.mp h with rfl | h
      · rw [List.mem_cons, not_or]
        exact ⟨Ne.symm hc, ih List.mem_cons_self⟩
      · exact ih (List.mem_cons_of_mem first h)

variable (mark)

/-- The first part of a text in front of the mark is cut off there. -/
lemma splitOn_append_mark (a b : List Char) :
    splitOn mark (a ++ mark :: b) = splitOn mark a ++ splitOn mark b := by
  rw [splitOn_eq, splitOn_eq, splitOn_eq]
  exact List.splitOn_append_cons_self a b

lemma intercalate_cons_cons (first second : List Char) (rest : List (List Char)) :
    List.intercalate [mark] (first :: second :: rest) =
      first ++ mark :: List.intercalate [mark] (second :: rest) := by
  rw [List.intercalate_cons_cons, List.append_assoc, List.singleton_append]

/-- The pieces of a text make up the text. -/
theorem intercalate_splitOn (text : List Char) :
    List.intercalate [mark] (splitOn mark text) = text := by
  rw [splitOn_eq]
  exact List.intercalate_splitOn mark

/-- A text is determined by its pieces. -/
lemma splitOn_injective : Function.Injective (splitOn mark) :=
  Function.LeftInverse.injective (intercalate_splitOn mark)

/-- The pieces of texts that are put together are the pieces of all of them.
`List.splitOn_intercalate` is the case where no text holds the mark. -/
theorem splitOn_intercalate {texts : List (List Char)} (hne : texts ≠ []) :
    splitOn mark (List.intercalate [mark] texts) = texts.flatMap (splitOn mark) := by
  induction texts with
  | nil => exact absurd rfl hne
  | cons first rest ih =>
    cases rest with
    | nil => simp [List.intercalate]
    | cons second rest =>
      rw [intercalate_cons_cons, splitOn_append_mark, ih (List.cons_ne_nil _ _)]
      rfl

end ShaderLoom.Text
