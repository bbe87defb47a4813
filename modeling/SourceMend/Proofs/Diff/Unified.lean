import SourceMend.Diff
import SourceMend.Proofs.Diff.Script
import SourceMend.Proofs.Text.Join

/-!
# Different texts show a difference

`unified` leaves out unchanged lines only, so whatever goes or comes is shown.
Texts that differ differ in their lines (`linesOf_injective`), a script between
different lists has a stretch whose sides differ, and that stretch is in some
part (`exists_mem_parts`) and shows at least a sign (`show_ne_nil`).
-/

namespace SourceMend.Diff

/-! ## Lines -/

theorem flatten_linesOf (s : Text) : (linesOf s).flatten = s := by
  fun_induction linesOf s with
  | case1 => rfl
  | case2 r ih => simp [ih]
  | case3 c r _ _ ih => simp [ih]
  | case4 c r _ _ h ih => rw [h] at ih; simp [← ih]
  | case5 c r _ _ l ls h ih => rw [h] at ih; simp [← ih]

theorem linesOf_injective {s t : Text} (h : linesOf s = linesOf t) : s = t := by
  rw [← flatten_linesOf s, h, flatten_linesOf]

/-! ## Stretches -/

namespace Stretch

/-- The lines that a stretch starts from. -/
def old : Stretch → List Text
  | same xs => xs
  | changed xs _ => xs

/-- The lines that a stretch ends with. -/
def new : Stretch → List Text
  | same xs => xs
  | changed _ ys => ys

theorem showLine_ne_nil (sign : Char) (line : Text) : showLine sign line ≠ [] := by
  simp [showLine]

theorem show_ne_nil {s : Stretch} (h : s.old ≠ s.new) : s.show ≠ [] := by
  cases s with
  | same xs => exact absurd rfl h
  | changed xs ys =>
    intro hs
    simp only [Stretch.show, List.append_eq_nil_iff, List.flatMap_eq_nil_iff] at hs
    have hxs : xs = [] := List.eq_nil_iff_forall_not_mem.mpr fun x hx =>
      showLine_ne_nil '-' x (hs.1 x hx)
    have hys : ys = [] := List.eq_nil_iff_forall_not_mem.mpr fun y hy =>
      showLine_ne_nil '+' y (hs.2 y hy)
    exact h (hxs.trans hys.symm)

end Stretch

theorem old_consEdit (e : Edit Text) (ss : List Stretch) :
    (consEdit e ss).flatMap Stretch.old = e.old ++ ss.flatMap Stretch.old := by
  unfold consEdit
  split <;> simp [Edit.old, Stretch.old]

theorem new_consEdit (e : Edit Text) (ss : List Stretch) :
    (consEdit e ss).flatMap Stretch.new = e.new ++ ss.flatMap Stretch.new := by
  unfold consEdit
  split <;> simp [Edit.new, Stretch.new]

theorem old_stretches (s : Script Text) : (stretches s).flatMap Stretch.old = s.old := by
  induction s with
  | nil => rfl
  | cons e s ih => exact (old_consEdit e _).trans (by rw [Script.old_cons, ← ih]; rfl)

theorem new_stretches (s : Script Text) : (stretches s).flatMap Stretch.new = s.new := by
  induction s with
  | nil => rfl
  | cons e s ih => exact (new_consEdit e _).trans (by rw [Script.new_cons, ← ih]; rfl)

/-- A script between different lists has a stretch whose sides differ. -/
theorem exists_differing {s : Script Text} {a b : List Text} (hs : s.Turns a b) (hne : a ≠ b) :
    ∃ st ∈ stretches s, st.old ≠ st.new := by
  refine Classical.byContradiction fun hnone => hne ?_
  have hall : ∀ st ∈ stretches s, st.old = st.new := fun st hst =>
    Classical.byContradiction fun hdiff => hnone ⟨st, hst, hdiff⟩
  rw [← hs.old, ← hs.new, ← old_stretches, ← new_stretches, List.flatMap, List.flatMap,
    List.map_congr_left hall]

/-! ## Parts -/

/-- A stretch whose sides differ is never left out. -/
theorem exists_mem_partsFrom {st : Stretch} (h : st.old ≠ st.new) (part ss : List Stretch)
    (hmem : st ∈ part ∨ st ∈ ss) : ∃ p ∈ partsFrom part ss, st ∈ p := by
  have hsame (xs : List Text) : st ≠ .same xs := by rintro rfl; exact h rfl
  fun_induction partsFrom part ss with
  | case1 part => simpa using hmem
  | case2 part xs => simpa [hsame] using hmem
  | case3 part xs r _ _ ih =>
    rcases hmem with hpart | hrest
    · exact ⟨_, List.mem_cons_self, List.mem_append_left _ hpart⟩
    · obtain ⟨p, hp, hst⟩ := ih (.inr (by simpa [hsame] using hrest))
      exact ⟨p, List.mem_cons_of_mem _ hp, hst⟩
  | case4 part xs r _ _ ih => exact ih (by simpa [hsame] using hmem)
  | case5 part s r _ _ ih =>
    refine ih ?_
    simp only [List.mem_append, List.mem_cons, List.not_mem_nil, or_false] at hmem ⊢
    exact or_assoc.mpr hmem

theorem exists_mem_parts {st : Stretch} (h : st.old ≠ st.new) {ss : List Stretch}
    (hmem : st ∈ ss) : ∃ p ∈ parts ss, st ∈ p := by
  have hsame (xs : List Text) : st ≠ .same xs := by rintro rfl; exact h rfl
  unfold parts
  split
  · cases hmem
  · simp [hsame] at hmem
  · exact exists_mem_partsFrom h _ _ (.inr (by simpa [hsame] using hmem))
  · exact exists_mem_partsFrom h _ _ (.inr hmem)

/-! ## The difference -/

/-- Different texts have a difference to show. -/
theorem unified_ne_nil {a b : Text} (h : a ≠ b) : unified a b ≠ [] := by
  have hturns := Script.turns_settle (Script.turns_between (linesOf a) (linesOf b))
  obtain ⟨st, hst, hdiff⟩ := exists_differing hturns fun hlines => h (linesOf_injective hlines)
  obtain ⟨p, hp, hstp⟩ := exists_mem_parts hdiff hst
  refine Text.join_ne_nil (List.mem_map_of_mem hp) fun hnil => ?_
  exact Stretch.show_ne_nil hdiff (List.flatMap_eq_nil_iff.mp hnil st hstp)

end SourceMend.Diff
