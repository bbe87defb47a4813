import Mathlib.Data.List.Basic
import SourceMend.Text.Cut

/-!
# Parts of a text

Where a part `o` of a text can lie, when the text is cut at a character (`infix_append_cons`) or
at a place that `o` cannot go across.
-/

namespace SourceMend.Text

variable {a b o p q x y : Text} {c : Char}

/-- A part lies on one side of a character, or has it. -/
theorem infix_append_cons (h : o <:+: x ++ c :: y) :
    o <:+: x ∨ o <:+: y ∨ ∃ p q, o = p ++ c :: q ∧ p <:+ x ∧ q <+: y := by
  rcases List.infix_append_iff_ne_nil.1 h with h | h | ⟨p, r, -, hr, rfl, hp, hq⟩
  · exact .inl h
  · rcases List.infix_cons_iff.1 h with h | h
    · rcases List.prefix_cons_iff.1 h with rfl | ⟨q, rfl, hq⟩
      · exact .inl List.nil_infix
      · exact .inr (.inr ⟨[], q, rfl, List.nil_suffix, hq⟩)
    · exact .inr (.inl h)
  · rcases List.prefix_cons_iff.1 hq with rfl | ⟨q, rfl, hq'⟩
    · exact absurd rfl hr
    · exact .inr (.inr ⟨p, q, rfl, hp, hq'⟩)

theorem infix_of_not_mem (hc : c ∉ o) (h : o <:+: x ++ c :: y) : o <:+: x ∨ o <:+: y := by
  rcases infix_append_cons h with h | h | ⟨p, q, rfl, -, -⟩
  · exact .inl h
  · exact .inr h
  · simp at hc

/-- A part that has a character once. -/
theorem infix_of_once (hp : c ∉ p) (hq : c ∉ q) (h : p ++ c :: q <:+: x ++ c :: y) :
    p ++ c :: q <:+: x ∨ p ++ c :: q <:+: y ∨ (p <:+ x ∧ q <+: y) := by
  rcases infix_append_cons h with h | h | ⟨p', q', heq, hpx, hqy⟩
  · exact .inl h
  · exact .inr (.inl h)
  · obtain ⟨rfl, -, rfl⟩ := (List.append_cons_inj_of_notMem hp hq).1 heq
    exact .inr (.inr ⟨hpx, hqy⟩)

theorem suffix_append_singleton (h : p <:+ x) : p ++ [c] <:+ x ++ [c] :=
  List.suffix_concat_iff.2 (.inr ⟨p, rfl, h⟩)

theorem infix_of_last (hc : c ∉ o.dropLast) (h : o <:+: x ++ c :: y) :
    o <:+: x ++ [c] ∨ o <:+: y := by
  rcases infix_append_cons h with h | h | ⟨p, q, rfl, hp, -⟩
  · exact .inl (List.infix_append_of_infix_left h)
  · exact .inr h
  · cases q with
    | nil => exact .inl (suffix_append_singleton hp).isInfix
    | cons d q => simp [List.dropLast_append_of_ne_nil] at hc

theorem infix_of_ends (hc : c ∉ o.tail.dropLast) (h : o <:+: x ++ c :: y) :
    o <:+: x ++ [c] ∨ o <:+: c :: y := by
  rcases infix_append_cons h with h | h | ⟨p, q, rfl, hp, hq⟩
  · exact .inl (List.infix_append_of_infix_left h)
  · exact .inr (List.infix_cons h)
  · cases p with
    | nil => exact .inr (List.cons_prefix_cons.2 ⟨rfl, hq⟩).isInfix
    | cons d p =>
      cases q with
      | nil => exact .inl (suffix_append_singleton hp).isInfix
      | cons e q => simp [List.dropLast_append_of_ne_nil] at hc

/-- A part that begins with a character that `x` does not have. -/
theorem infix_right (hc : c ∉ x) (h : c :: o <:+: x ++ y) : c :: o <:+: y := by
  rcases List.infix_append_iff_ne_nil.1 h with h | h | ⟨p, q, hp, -, hpq, hpx, -⟩
  · exact absurd (h.subset List.mem_cons_self) hc
  · exact h
  · cases p with
    | nil => exact absurd rfl hp
    | cons d p =>
      obtain ⟨rfl, -⟩ := List.cons.inj hpq
      exact absurd (hpx.subset List.mem_cons_self) hc

/-- A part that ends with a character that `y` does not have. -/
theorem infix_left (hc : c ∉ y) (h : o ++ [c] <:+: x ++ y) : o ++ [c] <:+: x := by
  rw [← List.reverse_infix, List.reverse_append] at h ⊢
  rw [List.reverse_append] at h
  exact infix_right (mt List.mem_reverse.1 hc) h

theorem prefix_of_last (hc : c ∉ o.dropLast) (h : o <+: x ++ c :: y) : o <+: x ++ [c] := by
  induction x generalizing o with
  | nil =>
    rcases List.prefix_cons_iff.1 h with rfl | ⟨q, rfl, -⟩
    · exact List.nil_prefix
    · cases q with
      | nil => exact List.prefix_rfl
      | cons d q => simp at hc
  | cons d x ih =>
    rcases List.prefix_cons_iff.1 h with rfl | ⟨q, rfl, hq⟩
    · exact List.nil_prefix
    · refine List.cons_prefix_cons.2 ⟨rfl, ih (fun hmem => hc ?_) hq⟩
      cases q with
      | nil => simp at hmem
      | cons e q => exact List.mem_cons_of_mem d hmem

theorem prefix_of_not_mem (hc : c ∉ o) (h : o <+: x ++ c :: y) : o <+: x := by
  have hlast := prefix_of_last (fun hmem => hc (List.dropLast_subset _ hmem)) h
  rcases List.prefix_concat_iff.1 hlast with rfl | hprefix
  · simp at hc
  · exact hprefix

theorem append_of_not_mem_left (h : a ++ c :: b = p ++ y) (hp : c ∉ p) :
    ∃ d, a = p ++ d ∧ y = d ++ c :: b := by
  rcases List.append_eq_append_iff.1 h with ⟨d, rfl, hd⟩ | ⟨d, rfl, hd⟩
  · cases d with
    | nil => exact ⟨[], by simp, hd.symm⟩
    | cons e d =>
      obtain ⟨rfl, -⟩ := List.cons.inj hd
      simp at hp
  · exact ⟨d, rfl, hd⟩

theorem append_of_not_mem_right (h : a ++ c :: b = y ++ q) (hq : c ∉ q) :
    ∃ d, b = d ++ q ∧ y = a ++ c :: d := by
  rcases List.append_eq_append_iff.1 h with ⟨d, rfl, hd⟩ | ⟨d, rfl, hd⟩
  · cases d with
    | nil =>
      obtain rfl : c :: b = q := hd
      simp at hq
    | cons e d =>
      obtain ⟨rfl, rfl⟩ := List.cons.inj hd
      exact ⟨d, rfl, rfl⟩
  · simp [hd] at hq

/-- A text that is cut at two characters. -/
theorem cut_cases {a' b' : Text} {c' : Char} (h : a ++ c :: b = a' ++ c' :: b') (hne : c ≠ c') :
    (∃ x, a = a' ++ c' :: x ∧ b' = x ++ c :: b) ∨ ∃ x, a' = a ++ c :: x ∧ b = x ++ c' :: b' := by
  rcases List.append_eq_append_iff.1 h with ⟨x, rfl, hx⟩ | ⟨x, rfl, hx⟩
  · cases x with
    | nil => exact absurd (List.cons.inj hx).1 hne
    | cons d x =>
      obtain ⟨rfl, rfl⟩ := List.cons.inj hx
      exact .inr ⟨x, rfl, rfl⟩
  · cases x with
    | nil => exact absurd (List.cons.inj hx).1.symm hne
    | cons d x =>
      obtain ⟨rfl, rfl⟩ := List.cons.inj hx
      exact .inl ⟨x, rfl, rfl⟩

/-- A text has one cut at the last place of a character. -/
theorem cut_last {a' b' : Text} (h : a ++ c :: b = a' ++ c :: b') (hb : c ∉ b) (hb' : c ∉ b') :
    a = a' ∧ b = b' := by
  obtain ⟨d, rfl, hd⟩ := append_of_not_mem_right (y := a' ++ [c]) (by simpa using h) hb'
  rcases List.eq_nil_or_concat d with rfl | ⟨d, e, rfl⟩
  · exact ⟨((List.append_inj' hd rfl).1).symm, rfl⟩
  · have hd : a' ++ [c] = (a ++ c :: d) ++ [e] := by simpa using hd
    have he : c = e := by simpa using (List.append_inj' hd rfl).2
    simp [he] at hb

/-- A cut of a text with one more character, before that. -/
theorem split_last {r v : Text} {z : Char} (h : x ++ c :: r = v ++ [z]) :
    ∃ y, v = x ++ y ∧ y ++ [z] = c :: r := by
  rcases List.append_eq_append_iff.1 h with ⟨y, rfl, hy⟩ | ⟨y, rfl, hy⟩
  · exact ⟨y, rfl, hy.symm⟩
  · cases y with
    | nil => exact ⟨[], by simp, by simpa using hy⟩
    | cons d y => simp at hy

/-- A character of a text lies in the middle of it, if the two ends do not have it. -/
theorem middle_of_append (h : a ++ c :: b = p ++ (x ++ q)) (hp : c ∉ p) (hq : c ∉ q) :
    ∃ y z, x = y ++ c :: z ∧ a = p ++ y ∧ b = z ++ q := by
  obtain ⟨y, rfl, hy⟩ := append_of_not_mem_left h hp
  obtain ⟨z, rfl, rfl⟩ := append_of_not_mem_right hy.symm hq
  exact ⟨y, z, rfl, rfl, rfl⟩

end SourceMend.Text
