import SourceMend.Proofs.Text.Pieces

/-!
# Joined texts

A separator stands between what two lists of texts make up (`join_append`), so every text that
is not empty makes more of what it joins (`length_join_lt`).  Cutting a text at a character and
joining its pieces undo each other (`join_pieces`, `pieces_join`).
-/

namespace SourceMend.Text

variable {α : Type} {sep s t : List α} {ss ts : List (List α)} {x : α}

theorem join_cons (hts : ts ≠ []) : join sep (t :: ts) = t ++ sep ++ join sep ts := by
  cases ts with
  | nil => exact absurd rfl hts
  | cons u ts => rfl

theorem join_append (hss : ss ≠ []) (hts : ts ≠ []) :
    join sep (ss ++ ts) = join sep ss ++ sep ++ join sep ts := by
  induction ss with
  | nil => exact absurd rfl hss
  | cons s ss ih =>
    cases ss with
    | nil => exact join_cons hts
    | cons s' ss =>
      have hne : s' :: ss ≠ [] := List.cons_ne_nil s' ss
      rw [List.cons_append, join_cons (List.append_ne_nil_of_left_ne_nil hne ts), ih hne,
        join_cons hne]
      simp only [List.append_assoc]

theorem join_eq_intercalate (sep : List α) (ts : List (List α)) :
    join sep ts = sep.intercalate ts := by
  induction ts with
  | nil => rfl
  | cons t ts ih =>
    cases ts with
    | nil => simp [join]
    | cons u ts => rw [join_cons (List.cons_ne_nil u ts), List.intercalate_cons_cons, ih]

/-- A text among joined texts leaves them nonempty if it is nonempty itself. -/
theorem join_ne_nil (ht : t ∈ ts) (hne : t ≠ []) : join sep ts ≠ [] := by
  fun_induction join sep ts with
  | case1 => cases ht
  | case2 u => rw [← List.mem_singleton.mp ht]; exact hne
  | case3 u v r ih =>
    rcases List.mem_cons.mp ht with rfl | ht
    · simp [hne]
    · simp [ih ht]

/-- Texts that are joined to others make up more, if one of them is nonempty. -/
theorem length_join_lt (sep : List α) (ss : List (List α)) (ht : t ∈ ts) (hne : t ≠ []) :
    (join sep ss).length < (join sep (ss ++ ts)).length := by
  have hpos : 0 < (join sep ts).length := List.length_pos_iff.2 (join_ne_nil ht hne)
  by_cases hss : ss = []
  · subst hss
    exact hpos
  · rw [join_append hss (List.ne_nil_of_mem ht), List.length_append, List.length_append]
    omega

theorem join_pieces [DecidableEq α] (x : α) (s : List α) : join [x] (pieces x s) = s := by
  induction s using cut_induction (x := x) with
  | whole s hs => rw [pieces_of_not_mem hs, join]
  | cut a b ha ih =>
    rw [pieces_append_cons, pieces_of_not_mem ha, List.singleton_append,
      join_cons (pieces_ne_nil x b), ih, List.append_assoc, List.singleton_append]

theorem pieces_join [DecidableEq α] (hne : ts ≠ []) (h : ∀ t ∈ ts, x ∉ t) :
    pieces x (join [x] ts) = ts := by
  rw [join_eq_intercalate, pieces_intercalate hne h]

end SourceMend.Text
