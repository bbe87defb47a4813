import SourceMend.Path
import SourceMend.Proofs.Sorting

/-!
# The order of paths

Paths are ordered by their components, and components by their rank and then by
their names.  The order is total and transitive (`ranking_le`), and paths of which
neither comes after the other are alike (`alike_of_le_of_le`).
-/

namespace SourceMend.Path

variable {p q r : Path}

/-! ## Components -/

/-- The bytes of a component that is a name. -/
def Component.label : Component → List UInt8
  | name n => n.bytes
  | _ => []

/-- Components compare by rank and then by name. -/
theorem Component.compare_eq (a b : Component) :
    a.compare b = (Ord.compare a.rank b.rank).then (Ord.compare a.label b.label) := by
  cases a <;> cases b <;> simp [Component.compare, RawText.compare_eq, rank, label, Ordering.then]

theorem Component.compare_eq_compareLex :
    Component.compare = compareLex (compareOn rank) (compareOn label) := by
  funext a b
  exact a.compare_eq b

instance : Std.TransCmp Component.compare := by
  rw [Component.compare_eq_compareLex]
  infer_instance

theorem Component.eq_of_compare_eq {a b : Component} (h : a.compare b = .eq) : a = b := by
  rw [Component.compare_eq, Ordering.then_eq_eq] at h
  obtain ⟨hrank, hlabel⟩ := h
  have hrank : a.rank = b.rank := by simpa using hrank
  have hlabel : a.label = b.label := by simpa using hlabel
  cases a <;> cases b <;> simp_all [rank, label, RawText.ext_iff]

instance : Std.LawfulEqCmp Component.compare where
  eq_of_compare h := Component.eq_of_compare_eq h

/-! ## Paths -/

theorem compareComponents_eq (as bs : List Component) :
    compareComponents as bs = List.compareLex Component.compare as bs := by
  induction as generalizing bs with
  | nil => cases bs <;> rfl
  | cons a as ih =>
    cases bs with
    | nil => rfl
    | cons b bs =>
      rw [compareComponents, List.compareLex_cons_cons, ih]

theorem le_iff : p.le q = true
    ↔ (List.compareLex Component.compare p.components q.components).isLE = true := by
  simp only [le, compare, compareComponents_eq]
  cases List.compareLex Component.compare p.components q.components <;> rfl

/-- Paths are ranked by their components. -/
theorem ranking_le : Ranking le where
  trans _ _ _ hpq hqr := le_iff.2 (Std.TransCmp.isLE_trans (le_iff.1 hpq) (le_iff.1 hqr))
  total p q := by
    have hswap : List.compareLex Component.compare p.components q.components
        = (List.compareLex Component.compare q.components p.components).swap :=
      Std.OrientedCmp.eq_swap
    simp only [Bool.or_eq_true, le_iff]
    rw [hswap]
    cases List.compareLex Component.compare q.components p.components <;> simp

/-- Paths that tie are alike. -/
theorem alike_of_compare_eq (h : p.compare q = .eq) : p.Alike q := by
  rw [compare, compareComponents_eq] at h
  exact Std.LawfulEqCmp.eq_of_compare h

/-- Paths that come neither before nor after each other are alike. -/
theorem alike_of_le_of_le (hpq : p.le q = true) (hqp : q.le p = true) : p.Alike q :=
  Std.LawfulEqCmp.eq_of_compare (Std.OrientedCmp.isLE_antisymm (le_iff.1 hpq) (le_iff.1 hqp))

end SourceMend.Path
