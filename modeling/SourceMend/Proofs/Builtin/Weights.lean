import SourceMend.Proofs.Builtin.Edits
import SourceMend.Proofs.Builtin.Parameters
import SourceMend.Proofs.Rule.Weight

/-!
# Weights for the built-in steps

The fixes of a built-in step all work in one direction: the first three steps take
characters of some kinds away, and the last one adds colons (`exists_gains`).  So the
fixes of a built-in step never undo each other.
-/

namespace SourceMend.Catalog.Builtin

open Rule Text

/-! ## Basic syntax -/

/-- The characters that the first step takes away. -/
def debris : List Char := [' ', '\t', ';', '?']

theorem gains_trailingBlanks : trailingBlanks.Gains (fewer debris) := by
  refine gains_of_fewer fun h => ?_
  obtain ⟨hne, hall, -, rfl⟩ := replaces_trailingBlanks h
  obtain ⟨c, hc⟩ := List.exists_mem_of_ne_nil _ hne
  have hdebris : ∀ c ∈ [' ', '\t'], c ∈ debris := by decide
  exact countP_pos hc (hdebris c (contains_lineBlanks.1 (hall c hc)))

theorem gains_semicolons : semicolons.Gains (fewer debris) := by
  refine gains_of_fewer fun h => ?_
  obtain ⟨⟨x, w, hne, hx, -, rfl⟩, -, rfl⟩ := replaces_semicolons h
  obtain ⟨c, hc⟩ := List.exists_mem_of_ne_nil _ hne
  have hpos : 0 < x.countP (· ∈ debris) := countP_pos hc (hx c hc ▸ by decide)
  simp only [List.countP_cons, List.countP_append, List.countP_nil]
  omega

theorem gains_optionalAssignment : optionalAssignment.Gains (fewer debris) := by
  refine gains_of_fewer fun h => ?_
  obtain ⟨a, z, y, -, rfl, rfl⟩ := optionalAssignment_cut h
  simp [List.countP_cons, debris]

/-! ## Promises -/

theorem countP_promiseCall {x f mid : Text} (h : PromiseCall x f mid) :
    0 < mid.countP (· ∈ ['<']) := by
  obtain ⟨-, rfl⟩ := h
  exact countP_pos (c := '<') (by simp) (by decide)

theorem gains_promiseResolve : promiseResolve.Gains (fewer ['<']) := by
  refine gains_of_fewer fun h => ?_
  obtain ⟨⟨x, hx⟩, rfl⟩ := replaces_promiseResolve h
  have hnone : ("Promise.".toList ++ ("resolve".toList ++ ['('])).countP (· ∈ ['<']) = 0 := by decide
  rw [hnone]
  exact countP_promiseCall hx

theorem gains_promiseStatic : promiseStatic.Gains (fewer ['<']) := by
  refine gains_of_fewer fun h => ?_
  obtain ⟨x, f, hf, hx, rfl⟩ := replaces_promiseStatic h
  have hnone : ∀ f ∈ statics, ("Promise.".toList ++ (f ++ ['('])).countP (· ∈ ['<']) = 0 := by decide
  rw [hnone f hf]
  exact countP_promiseCall hx

/-! ## Casts and assertions -/

/-- The characters that the third step takes away: one of every repeated cast, one of every
stacked mark and one of every assertion. -/
def redundant : List Char := ['n', '!', '<']

theorem gains_repeatedCast : repeatedCast.Gains (fewer redundant) := by
  refine gains_of_fewer fun h => ?_
  obtain ⟨x, y, ⟨w, -, -, rfl⟩, -, rfl, -, -, rfl⟩ := replaces_repeatedCast h
  have hcast : ("as any".toList).countP (· ∈ redundant) = 1 := by decide
  simp only [List.countP_append, hcast]
  omega

theorem gains_stackedBangs : stackedBangs.Gains (fewer redundant) := by
  refine gains_of_fewer fun h => ?_
  obtain ⟨c, x, ⟨-, hne, hx, rfl⟩, rfl⟩ := replaces_stackedBangs h
  obtain ⟨d, hd⟩ := List.exists_mem_of_ne_nil _ hne
  have hpos : 0 < x.countP (· ∈ redundant) := countP_pos hd (hx d hd ▸ by decide)
  simp only [List.countP_cons, List.countP_append, List.countP_nil]
  omega

theorem gains_angleAssertion : angleAssertion.Gains (fewer redundant) := by
  refine gains_of_fewer fun h => ?_
  obtain ⟨a, n, e, b, ⟨-, -, -, -, rfl⟩, rfl⟩ := replaces_angleAssertion h
  have has : (" as ".toList).countP (· ∈ redundant) = 0 := by decide
  have hopen : decide ('<' ∈ redundant) = true := by decide
  simp only [List.countP_cons, List.countP_append, List.countP_nil, has, hopen, if_true]
  omega

/-! ## Missing types -/

theorem countP_arrowParameters {a l b c mid : Text} (h : ArrowParameters a l b c mid) :
    mid.countP (· ∈ [':']) = 0 := by
  obtain ⟨y, rfl, hy⟩ := h.ends
  exact countP_eq_zero (List.forall_mem_singleton.2 (by simp [hy ':' (by decide)]))

theorem gains_routeParameters : routeParameters.Gains (more [':']) := by
  refine gains_of_more fun h => ?_
  obtain ⟨⟨a, l, b, c, hmid⟩, rfl⟩ := replaces_routeParameters h
  rw [countP_arrowParameters hmid]
  decide

theorem gains_arrowParameters : arrowParameters.Gains (more [':']) := by
  refine gains_of_more fun h => ?_
  obtain ⟨a, l, b, c, n, ns, hmid, hn, hns, rfl⟩ := replaces_arrowParameters h
  obtain ⟨y, heq, -⟩ := declared_colon hn hns
  rw [countP_arrowParameters hmid, heq]
  exact countP_pos (c := ':') (by simp) (by decide)

theorem gains_catchBinding : catchBinding.Gains (more [':']) := by
  refine gains_of_more fun h => ?_
  obtain ⟨a, b, n, c, hmid, rfl⟩ := replaces_catchBinding h
  obtain ⟨y, rfl, -, hy⟩ := hmid.ends
  rw [countP_eq_zero (List.forall_mem_singleton.2 (by simp [hy ':' (by decide)]))]
  exact countP_pos (c := ':') (by simp) (by decide)

/-! ## Steps -/

/-- The fixes of each built-in step add to the weight of a text, for some weights. -/
theorem exists_gains : ∀ s ∈ steps, ∃ w, ∀ r ∈ s.rules, r.Gains w := by
  simp only [steps, List.forall_mem_cons, List.not_mem_nil, false_implies, implies_true, and_true]
  exact ⟨⟨fewer debris, List.forall_mem_cons.2 ⟨gains_trailingBlanks, List.forall_mem_cons.2
      ⟨gains_semicolons, List.forall_mem_singleton.2 gains_optionalAssignment⟩⟩⟩,
    ⟨fewer ['<'], List.forall_mem_cons.2
      ⟨gains_promiseResolve, List.forall_mem_singleton.2 gains_promiseStatic⟩⟩,
    ⟨fewer redundant, List.forall_mem_cons.2 ⟨gains_repeatedCast, List.forall_mem_cons.2
      ⟨gains_stackedBangs, List.forall_mem_singleton.2 gains_angleAssertion⟩⟩⟩,
    ⟨more [':'], List.forall_mem_cons.2 ⟨gains_routeParameters, List.forall_mem_cons.2
      ⟨gains_arrowParameters, List.forall_mem_singleton.2 gains_catchBinding⟩⟩⟩⟩

end SourceMend.Catalog.Builtin
