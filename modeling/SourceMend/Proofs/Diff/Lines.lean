import SourceMend.Proofs.Diff.Unified

/-!
# Reading a text line by line

A line has no terminator but the one at its end (`IsLine`).  A row is a line that has one
and something in front of it (`IsRow`).  Rows put one after another are the lines of what
they make up (`linesOf_flatten`), since no carriage return at the end of one can meet a line
feed at the start of the next.
-/

namespace SourceMend.Diff

variable {c sign : Char} {s t u e line row : Text} {rows : List Text}

/-! ## Lines -/

/-- That a text is one line: no terminator stands in it but the one at its end, if it has one. -/
def IsLine (line : Text) : Prop :=
  ∃ u e, line = u ++ e ∧ '\n' ∉ u ∧ '\r' ∉ u ∧ e ∈ [[], ['\n'], ['\r'], ['\r', '\n']]

/-- A character that is no terminator can be put in front of a line. -/
theorem IsLine.cons (h : IsLine line) (hfeed : c ≠ '\n') (hreturn : c ≠ '\r') :
    IsLine (c :: line) := by
  obtain ⟨u, e, rfl, hu, hu', he⟩ := h
  exact ⟨c :: u, e, rfl, List.not_mem_cons_of_ne_of_not_mem hfeed.symm hu,
    List.not_mem_cons_of_ne_of_not_mem hreturn.symm hu', he⟩

theorem isLine_nil : IsLine [] := ⟨[], [], rfl, by simp, by simp, by simp⟩

/-- The lines of a text are lines. -/
theorem isLine_of_mem_linesOf (h : line ∈ linesOf s) : IsLine line := by
  fun_induction linesOf s generalizing line with
  | case1 => cases h
  | case2 r ih =>
    rcases List.mem_cons.1 h with rfl | h
    · exact ⟨[], ['\r', '\n'], rfl, by simp, by simp, by simp⟩
    · exact ih h
  | case3 c r _ hc ih =>
    rcases List.mem_cons.1 h with rfl | h
    · exact ⟨[], [c], rfl, by simp, by simp, by rcases hc with rfl | rfl <;> simp⟩
    · exact ih h
  | case4 c r _ hc =>
    obtain ⟨hfeed, hreturn⟩ := not_or.1 hc
    obtain rfl := List.mem_singleton.1 h
    exact isLine_nil.cons hfeed hreturn
  | case5 c r _ hc l ls hr ih =>
    obtain ⟨hfeed, hreturn⟩ := not_or.1 hc
    rw [hr] at ih
    rcases List.mem_cons.1 h with rfl | h
    · exact (ih List.mem_cons_self).cons hfeed hreturn
    · exact ih (List.mem_cons_of_mem l h)

/-! ## Rows -/

/-- That a text is one line with a terminator and something in front of that. -/
def IsRow (row : Text) : Prop :=
  ∃ u e, row = u ++ e ∧ u ≠ [] ∧ '\n' ∉ u ∧ '\r' ∉ u ∧ e ∈ [['\n'], ['\r'], ['\r', '\n']]

theorem isRow_gap : IsRow gap :=
  ⟨"...".toList, ['\n'], by decide, by decide, by decide, by decide, by decide⟩

/-- The last character of a text without terminators is none. -/
theorem isTerminated_eq_false (hu : '\n' ∉ u) (hu' : '\r' ∉ u) : isTerminated u = false := by
  unfold isTerminated
  split
  · next c hc =>
    have hmem := List.mem_of_getLast? hc
    have hfeed : c ≠ '\n' := fun h => hu (h ▸ hmem)
    have hreturn : c ≠ '\r' := fun h => hu' (h ▸ hmem)
    simp [hfeed, hreturn]
  · rfl

/-- A line is shown as a row. -/
theorem isRow_showLine (h : IsLine line) (hfeed : sign ≠ '\n') (hreturn : sign ≠ '\r') :
    IsRow (showLine sign line) := by
  obtain ⟨u, e, rfl, hu, hu', he⟩ := h
  have hnot := List.not_mem_cons_of_ne_of_not_mem hfeed.symm hu
  have hnot' := List.not_mem_cons_of_ne_of_not_mem hreturn.symm hu'
  simp only [List.mem_cons, List.not_mem_nil, or_false] at he
  rcases he with rfl | rfl | rfl | rfl
  · exact ⟨sign :: u, ['\n'], by simp [showLine, isTerminated_eq_false hu hu'], by simp, hnot,
      hnot', by simp⟩
  · exact ⟨sign :: u, ['\n'], by simp [showLine, isTerminated], by simp, hnot, hnot', by simp⟩
  · exact ⟨sign :: u, ['\r'], by simp [showLine, isTerminated], by simp, hnot, hnot', by simp⟩
  · exact ⟨sign :: u, ['\r', '\n'], by simp [showLine, isTerminated], by simp, hnot, hnot', by simp⟩

/-! ## Rows one after another -/

theorem linesOf_cons (hfeed : c ≠ '\n') (hreturn : c ≠ '\r') (hs : linesOf s = line :: rows) :
    linesOf (c :: s) = (c :: line) :: rows := by
  rw [linesOf, if_neg (not_or.2 ⟨hfeed, hreturn⟩), hs]
  rintro r rfl
  exact absurd rfl hreturn

/-- What stands before a terminator is the first line, unless a carriage return meets a line
feed. -/
theorem linesOf_append (hu : '\n' ∉ u) (hu' : '\r' ∉ u) (he : e ∈ [['\n'], ['\r'], ['\r', '\n']])
    (ht : t.head? ≠ some '\n') : linesOf (u ++ e ++ t) = (u ++ e) :: linesOf t := by
  induction u with
  | nil =>
    simp only [List.mem_cons, List.not_mem_nil, or_false] at he
    rcases he with rfl | rfl | rfl
    · simp [linesOf]
    · have hfeed (r : Text) (_ : '\r' = '\r') : t ≠ '\n' :: r := by
        rintro rfl
        exact ht rfl
      rw [List.nil_append, List.singleton_append, linesOf, if_pos (.inr rfl)]
      exact hfeed
    · simp [linesOf]
  | cons c u ih =>
    obtain ⟨hc, hu⟩ := not_or.1 (mt List.mem_cons.2 hu)
    obtain ⟨hc', hu'⟩ := not_or.1 (mt List.mem_cons.2 hu')
    exact linesOf_cons (Ne.symm hc) (Ne.symm hc') (ih hu hu')

/-- A row does not begin with a line feed. -/
theorem IsRow.head?_append (h : IsRow row) (t : Text) : (row ++ t).head? ≠ some '\n' := by
  obtain ⟨u, e, rfl, hne, hu, -, -⟩ := h
  obtain ⟨c, u, rfl⟩ := List.exists_cons_of_ne_nil hne
  intro hc
  exact hu (Option.some.inj hc ▸ List.mem_cons_self)

/-- Rows are the lines of what they make up. -/
theorem linesOf_flatten (h : ∀ row ∈ rows, IsRow row) : linesOf rows.flatten = rows := by
  induction rows with
  | nil => rfl
  | cons row rows ih =>
    obtain ⟨hrow, hrows⟩ := List.forall_mem_cons.1 h
    have hhead : rows.flatten.head? ≠ some '\n' := by
      cases rows with
      | nil => simp
      | cons next rows => exact (hrows next List.mem_cons_self).head?_append rows.flatten
    obtain ⟨u, e, rfl, -, hu, hu', he⟩ := hrow
    rw [List.flatten_cons, linesOf_append hu hu' he hhead, ih hrows]

end SourceMend.Diff
