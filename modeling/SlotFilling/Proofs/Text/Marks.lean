import Mathlib.Data.List.TakeWhile

/-!
# Texts cut at a mark

A text that has a mark can be cut at the first one or at the last one, each in exactly one way:
the part before the first mark, or the part after the last one, has no mark of its own.
-/
namespace SlotFilling.Text

variable {mark : Char} {text before after : List Char}

theorem ne_of_not_mem (clear : mark ∉ text) :
    ∀ character ∈ text, decide (character ≠ mark) = true :=
  fun _ member => decide_eq_true fun same => clear (same ▸ member)

theorem dropWhile_of_not_mem (absent : mark ∉ text) : text.dropWhile (· ≠ mark) = [] :=
  List.dropWhile_eq_nil_iff.mpr (ne_of_not_mem absent)

theorem takeWhile_of_not_mem (absent : mark ∉ text) : text.takeWhile (· ≠ mark) = text :=
  List.takeWhile_eq_self_iff.mpr (ne_of_not_mem absent)

theorem takeWhile_append_mark (clear : mark ∉ before) (after : List Char) :
    (before ++ mark :: after).takeWhile (· ≠ mark) = before := by
  rw [List.takeWhile_append_of_pos (ne_of_not_mem clear), List.takeWhile_cons_of_neg (by simp),
    List.append_nil]

theorem dropWhile_append_mark (clear : mark ∉ before) (after : List Char) :
    (before ++ mark :: after).dropWhile (· ≠ mark) = mark :: after := by
  rw [List.dropWhile_append_of_pos (ne_of_not_mem clear), List.dropWhile_cons_of_neg (by simp)]

/-- Where the part before the first mark ends, the mark follows. -/
theorem eq_append_of_dropWhile {first : Char}
    (cut : text.dropWhile (· ≠ mark) = first :: after) :
    text = text.takeWhile (· ≠ mark) ++ mark :: after := by
  have stopped := List.head?_dropWhile_not (p := (· ≠ mark)) (l := text)
  rw [cut] at stopped
  have isMark : first = mark := by simpa using stopped
  rw [← isMark, ← cut, isMark, List.takeWhile_append_dropWhile]

theorem exists_last_mark (member : mark ∈ text) :
    ∃ before after, text = before ++ mark :: after ∧ mark ∉ after := by
  -- The last mark is the first one of the text read from its end.
  obtain ⟨after, before, reversed, clear⟩ :=
    List.eq_append_cons_of_mem (List.mem_reverse.mpr member)
  refine ⟨before.reverse, after.reverse, ?_, by simpa using clear⟩
  rw [← List.reverse_inj, reversed]
  simp

end SlotFilling.Text
