import Mathlib.Data.List.Basic
import SourceMend.Text.Cut

/-!
# One cut

A text is cut where a separator stands, if no separator begins further left
(`cutAt_append`), and nowhere else (`cutAt_eq_some_iff`).  It is cut at the last
place of a character, if the rest does not have that character
(`cutLast_append`), and nowhere else (`cutLast_eq_some_iff`).
-/

namespace SourceMend.Text

variable {sep a b s : Text} {x : Char}

theorem cutAt_self (sep b : Text) : cutAt sep (sep ++ b) = some ([], b) := by
  generalize hs : sep ++ b = s
  cases s with
  | nil =>
    obtain ⟨rfl, rfl⟩ := List.append_eq_nil_iff.1 hs
    rfl
  | cons c r => simp [cutAt, List.isPrefixOf?_eq_some_iff_append_eq.2 hs]

theorem cutAt_cons {c : Char} {r : Text} (h : ¬sep <+: c :: r) :
    cutAt sep (c :: r) = (cutAt sep r).map fun p => (c :: p.1, p.2) := by
  rw [cutAt]
  split
  · next rest hrest => exact absurd ⟨rest, List.isPrefixOf?_eq_some_iff_append_eq.1 hrest⟩ h
  · rfl

/-- The cut is at a separator if no other begins before it. -/
theorem cutAt_append (h : ∀ u, u ≠ [] → u <:+ a → ¬sep <+: u ++ (sep ++ b)) :
    cutAt sep (a ++ (sep ++ b)) = some (a, b) := by
  induction a with
  | nil => exact cutAt_self sep b
  | cons c a ih =>
    have hc : ¬sep <+: c :: (a ++ (sep ++ b)) := h (c :: a) (by simp) List.suffix_rfl
    have ha := ih fun u hu hsuffix => h u hu (hsuffix.trans (List.suffix_cons c a))
    rw [List.cons_append, cutAt_cons hc, ha]
    rfl

theorem cutAt_singleton (h : x ∉ a) : cutAt [x] (a ++ x :: b) = some (a, b) := by
  refine cutAt_append fun u hu hsuffix hprefix => h ?_
  cases u with
  | nil => exact absurd rfl hu
  | cons c u =>
    obtain ⟨rfl, -⟩ := List.cons_prefix_cons.1 hprefix
    exact hsuffix.subset List.mem_cons_self

theorem cutAt_eq_some (h : cutAt sep s = some (a, b)) :
    s = a ++ (sep ++ b) ∧ ∀ u v, s = u ++ (sep ++ v) → a.length ≤ u.length := by
  induction s generalizing a with
  | nil =>
    rw [cutAt] at h
    split at h
    · next hsep =>
      cases h
      exact ⟨by simpa using hsep, fun _ _ _ => Nat.zero_le _⟩
    · cases h
  | cons c r ih =>
    rw [cutAt] at h
    split at h
    · next rest hrest =>
      cases h
      exact ⟨(List.isPrefixOf?_eq_some_iff_append_eq.1 hrest).symm, fun _ _ _ => Nat.zero_le _⟩
    · next hnone =>
      obtain ⟨⟨a', b'⟩, hcut, heq⟩ := Option.map_eq_some_iff.1 h
      cases heq
      obtain ⟨hr, hfirst⟩ := ih hcut
      refine ⟨congrArg (c :: ·) hr, fun u v huv => ?_⟩
      cases u with
      | nil =>
        have hsep : sep ++ v = c :: r := huv.symm
        rw [List.isPrefixOf?_eq_some_iff_append_eq.2 hsep] at hnone
        cases hnone
      | cons d u =>
        obtain ⟨-, hr'⟩ := List.cons.inj huv
        exact Nat.succ_le_succ (hfirst u v hr')

/-- The cut is at the leftmost separator. -/
theorem cutAt_eq_some_iff : cutAt sep s = some (a, b)
    ↔ s = a ++ (sep ++ b) ∧ ∀ u v, s = u ++ (sep ++ v) → a.length ≤ u.length := by
  refine ⟨cutAt_eq_some, ?_⟩
  rintro ⟨rfl, hfirst⟩
  refine cutAt_append fun u hu ⟨w, hw⟩ ⟨v, hv⟩ => hu ?_
  have hle := hfirst w v (by rw [hv, ← hw, List.append_assoc])
  rw [← hw, List.length_append] at hle
  exact List.length_eq_zero_iff.1 (by omega)

/-! ## The last place of a character -/

section Last

variable {α : Type} [DecidableEq α] {a b s : List α} {x : α}

theorem cutLast_of_not_mem (h : x ∉ a) : cutLast x a = none := by
  induction a with
  | nil => rfl
  | cons c a ih =>
    obtain ⟨hc, ha⟩ := not_or.1 (mt List.mem_cons.2 h)
    simp [cutLast, ih ha, Ne.symm hc]

theorem cutLast_append (h : x ∉ b) : cutLast x (a ++ x :: b) = some (a, b) := by
  induction a with
  | nil => simp [cutLast, cutLast_of_not_mem h]
  | cons c a ih => simp [cutLast, ih]

theorem not_mem_of_cutLast (h : cutLast x s = none) : x ∉ s := by
  induction s with
  | nil => exact List.not_mem_nil
  | cons c r ih =>
    rw [cutLast] at h
    split at h
    · cases h
    · next hnone =>
      split at h
      · cases h
      · next hc => exact List.not_mem_cons_of_ne_of_not_mem (Ne.symm hc) (ih hnone)

theorem cutLast_eq_some (h : cutLast x s = some (a, b)) : s = a ++ x :: b ∧ x ∉ b := by
  induction s generalizing a with
  | nil => cases h
  | cons c r ih =>
    rw [cutLast] at h
    split at h
    · next p hp =>
      cases h
      obtain ⟨hr, hb⟩ := ih hp
      exact ⟨congrArg (c :: ·) hr, hb⟩
    · next hnone =>
      split at h
      · next hc =>
        cases h
        exact ⟨by rw [hc]; rfl, not_mem_of_cutLast hnone⟩
      · cases h

/-- The cut is at the last place of the character. -/
theorem cutLast_eq_some_iff : cutLast x s = some (a, b) ↔ s = a ++ x :: b ∧ x ∉ b := by
  refine ⟨cutLast_eq_some, ?_⟩
  rintro ⟨rfl, hb⟩
  exact cutLast_append hb

end Last

end SourceMend.Text
