import SourceMend.Proofs.Text.Pieces
import SourceMend.Proofs.Text.Trim

/-!
# The lines of a text

A text without a line feed is one line (`lines_of_not_mem`), and a line feed
ends the line before it (`lines_append_feed`).
-/

namespace SourceMend.Text

theorem dropReturn_concat (s : Text) (c : Char) :
    dropReturn (s ++ [c]) = if c = '\r' then s else s ++ [c] := by
  induction s with
  | nil =>
    simp only [List.nil_append, dropReturn]
  | cons d s ih =>
    cases s with
    | nil =>
      simp only [List.cons_append, List.nil_append, dropReturn]
      split
      · rfl
      · rfl
    | cons e s =>
      simp only [List.cons_append, dropReturn]
      rw [← List.cons_append, ih]
      split
      · rfl
      · rfl

/-- Dropping all carriage returns at the end makes up for dropping one. -/
theorem dropEndWhile_dropReturn (s : Text) :
    dropEndWhile (· == '\r') (dropReturn s) = dropEndWhile (· == '\r') s := by
  rcases List.eq_nil_or_concat s with rfl | ⟨s, c, rfl⟩
  · rfl
  · rw [List.concat_eq_append, dropReturn_concat, dropEndWhile_concat]
    by_cases hc : c = '\r'
    · simp [hc]
    · simp [hc, dropEndWhile_concat]

theorem lines_of_not_mem {l : Text} (h : '\n' ∉ l) : lines l = if l = [] then [] else [l] := by
  rw [lines, pieces_of_not_mem h]
  cases l with
  | nil => rfl
  | cons c l => rfl

theorem lines_append_feed {l : Text} (h : '\n' ∉ l) (s : Text) :
    lines (l ++ '\n' :: s) = dropReturn l :: lines s := by
  have hne := pieces_ne_nil '\n' s
  simp only [lines, pieces_append_cons, pieces_of_not_mem h, List.singleton_append,
    List.dropLast_cons_of_ne_nil hne, List.getLast?_cons_of_ne_nil hne, List.map_cons]
  split
  · rfl
  · rfl

end SourceMend.Text
