import Mathlib.Algebra.BigOperators.Group.List.Basic
import Mathlib.Algebra.Order.Ring.Int
import SourceMend.Proofs.Rule.Replacing

/-!
# Fixes that cannot undo each other

The fixes of a rule may undo each other, so that a rule with fixes leaves a text as it
was.  A single fix cannot (`ne_of_apply_eq_one`), nor can fixes that all add to the
weight of the text, for some weights of the characters (`weight_add_le_of_apply`).
-/

namespace SourceMend

/-! ## Weights -/

namespace Text

/-- The weight of a text, from the weights of its characters. -/
def weight (w : Char → Int) (s : Text) : Int := (s.map w).sum

variable {kind : List Char} {s : Text} {c : Char}

@[simp] theorem weight_append (w : Char → Int) (s t : Text) :
    weight w (s ++ t) = weight w s + weight w t := by
  simp [weight]

/-- The weight by which a text is the heavier the fewer characters of a kind it has. -/
def fewer (kind : List Char) (c : Char) : Int := if c ∈ kind then -1 else 0

/-- The weight by which a text is the heavier the more characters of a kind it has. -/
def more (kind : List Char) (c : Char) : Int := if c ∈ kind then 1 else 0

theorem weight_more (kind : List Char) (s : Text) : weight (more kind) s = s.countP (· ∈ kind) := by
  induction s with
  | nil => rfl
  | cons c s ih =>
    have hcons : weight (more kind) (c :: s) = more kind c + weight (more kind) s := rfl
    rw [hcons, ih, List.countP_cons, more]
    by_cases hc : c ∈ kind <;> simp [hc, Int.add_comm]

theorem weight_fewer (kind : List Char) (s : Text) :
    weight (fewer kind) s = -weight (more kind) s := by
  induction s with
  | nil => rfl
  | cons c s ih =>
    have hcons (w : Char → Int) : weight w (c :: s) = w c + weight w s := rfl
    rw [hcons, hcons, ih, fewer, more]
    by_cases hc : c ∈ kind <;> simp [hc]
    omega

theorem countP_pos (hc : c ∈ s) (hkind : c ∈ kind) : 0 < s.countP (· ∈ kind) :=
  List.countP_pos_iff.2 ⟨c, hc, decide_eq_true hkind⟩

theorem countP_eq_zero (h : ∀ c ∈ kind, c ∉ s) : s.countP (· ∈ kind) = 0 :=
  List.countP_eq_zero.2 fun c hc hkind => h c (of_decide_eq_true hkind) hc

end Text

namespace Rule

open Pattern Text

variable {r : Rule} {s out gap : Text} {ps : List Piece} {fixes : Nat} {w : Char → Int}
  {kind : List Char}

/-- Whether a rule replaces a match by a heavier text, if not by the match itself. -/
def Gains (w : Char → Int) (r : Rule) : Prop :=
  ∀ {pre mid post t}, r.Replaces pre mid post t → t ≠ mid → weight w mid < weight w t

theorem gains_of_more (h : ∀ {pre mid post t}, r.Replaces pre mid post t →
    mid.countP (· ∈ kind) < t.countP (· ∈ kind)) : r.Gains (more kind) := by
  intro pre mid post t hreplaces _
  rw [weight_more, weight_more]
  exact Int.ofNat_lt.2 (h hreplaces)

theorem gains_of_fewer (h : ∀ {pre mid post t}, r.Replaces pre mid post t →
    t.countP (· ∈ kind) < mid.countP (· ∈ kind)) : r.Gains (fewer kind) := by
  intro pre mid post t hreplaces _
  rw [weight_fewer, weight_fewer, weight_more, weight_more]
  exact Int.neg_lt_neg (Int.ofNat_lt.2 (h hreplaces))

/-! ## Pieces -/

theorem CutAt.replaces {p : Piece} (h : r.Cut s gap ps) (hp : p ∈ ps) :
    ∃ pre post, r.Replaces pre p.occurrence.text post p.replacement := by
  have hm : p.occurrence ∈ r.pattern.matches s := h.matched ▸ List.mem_map_of_mem hp
  have ht := h.replaced p hp
  obtain ⟨pre, mid, post, gs, hmatch, hchosen⟩ := (stand_matches r.pattern s).chosen_of_mem hm
  rw [hmatch] at ht ⊢
  exact ⟨pre, post, gs, hchosen, ht⟩

/-- A text with one fix differs. -/
theorem Piece.rewritten_ne_of_fixes_eq_one (h : Piece.fixes ps = 1) :
    Piece.rewritten gap ps ≠ Piece.original gap ps := by
  induction ps generalizing gap with
  | nil => cases h
  | cons p ps ih =>
    rw [Piece.fixes_cons] at h
    rw [Piece.original_cons, Piece.rewritten_cons]
    intro heq
    have heq := List.append_cancel_left heq
    cases hfix : p.isFix with
    | false =>
      rw [Piece.isFix_eq_false.1 hfix] at heq
      exact ih (by simpa [hfix] using h) (List.append_cancel_left heq)
    | true =>
      have hrest : Piece.fixes ps = 0 := by simpa [hfix] using h
      rw [Piece.rewritten_of_fixes_eq_zero hrest] at heq
      exact Piece.isFix_eq_true.1 hfix (List.append_cancel_right heq)

/-- Fixes that add to the weight do so together. -/
theorem Piece.weight_add_le (h : ∀ p ∈ ps, p.isFix = true →
      weight w p.occurrence.text < weight w p.replacement) :
    weight w (Piece.original gap ps) + Piece.fixes ps ≤ weight w (Piece.rewritten gap ps) := by
  induction ps generalizing gap with
  | nil => simp [Piece.original, Piece.rewritten, Piece.fixes]
  | cons p ps ih =>
    obtain ⟨hp, hps⟩ := List.forall_mem_cons.1 h
    have hrest : weight w (Piece.original p.after ps) + Piece.fixes ps
        ≤ weight w (Piece.rewritten p.after ps) := ih hps
    rw [Piece.original_cons, Piece.rewritten_cons, Piece.fixes_cons]
    simp only [weight_append]
    cases hfix : p.isFix with
    | false =>
      rw [Piece.isFix_eq_false.1 hfix]
      simp only [Bool.false_eq_true, if_false]
      omega
    | true =>
      have hlt := hp hfix
      simp only [if_true]
      omega

/-! ## Texts -/

/-- A single fix changes the text. -/
theorem ne_of_apply_eq_one (h : r.apply s = .ok (out, 1)) : out ≠ s := by
  obtain ⟨gap, ps, hcut, rfl, hfixes⟩ := cut_of_apply h
  rw [hcut.text]
  exact Piece.rewritten_ne_of_fixes_eq_one hfixes.symm

/-- Every fix of a rule that gains adds to the weight of the text. -/
theorem weight_add_le_of_apply (hr : r.Gains w) (h : r.apply s = .ok (out, fixes)) :
    weight w s + fixes ≤ weight w out := by
  obtain ⟨gap, ps, hcut, rfl, rfl⟩ := cut_of_apply h
  have hgains : ∀ p ∈ ps, p.isFix = true → weight w p.occurrence.text < weight w p.replacement := by
    intro p hp hfix
    obtain ⟨pre, post, hreplaces⟩ := hcut.replaces hp
    exact hr hreplaces (Piece.isFix_eq_true.1 hfix)
  rw [hcut.text]
  exact Piece.weight_add_le hgains

/-- A rule has a fix exactly if it replaces a match by a different text. -/
theorem pos_iff_of_apply (h : r.apply s = .ok (out, fixes)) : 0 < fixes
    ↔ ∃ m ∈ r.pattern.matches s, ∃ t, r.transform.replacement r.pattern m = .ok t ∧ t ≠ m.text := by
  obtain ⟨gap, ps, hcut, -, rfl⟩ := cut_of_apply h
  rw [Piece.fixes, List.countP_pos_iff, ← hcut.matched]
  constructor
  · rintro ⟨p, hp, hfix⟩
    exact ⟨p.occurrence, List.mem_map_of_mem hp, p.replacement, hcut.replaced p hp,
      Piece.isFix_eq_true.1 hfix⟩
  · rintro ⟨m, hm, t, ht, hne⟩
    obtain ⟨p, hp, rfl⟩ := List.mem_map.1 hm
    have hreplaced := hcut.replaced p hp
    rw [ht] at hreplaced
    obtain rfl := Except.ok.inj hreplaced
    exact ⟨p, hp, Piece.isFix_eq_true.2 hne⟩

end Rule
end SourceMend
