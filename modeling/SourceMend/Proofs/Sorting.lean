import Mathlib.Data.List.Sort

/-!
# Sorting what may tie

A ranking may leave different entries *tied*: neither of them comes after the other.
Sorting keeps tied entries in their order (`Ranking.filter_mergeSort`), and of the order
of a list nothing else shows when it is sorted (`Ranking.mergeSort_eq_iff`).  So parts of
a list can be sorted first (`Ranking.mergeSort_append_mergeSort`), and two lists can trade
places if entries of both that tie are equal (`Ranking.mergeSort_append_comm`).  What is
sorted and then listed once is strictly ascending (`pairwise_eraseDups`).
-/

namespace SourceMend

/-- A total order of entries, in which different entries may tie. -/
structure Ranking {α : Type} (le : α → α → Bool) : Prop where
  trans : ∀ x y z, le x y = true → le y z = true → le x z = true
  total : ∀ x y, (le x y || le y x) = true

namespace Ranking

variable {α β : Type} {le : α → α → Bool} {x y z : α} {xs ys : List α}

/-- Entries ranked by one of their fields. -/
theorem on (h : Ranking le) (f : β → α) : Ranking fun a b => le (f a) (f b) where
  trans a b c := h.trans (f a) (f b) (f c)
  total a b := h.total (f a) (f b)

/-- Numbers are ranked by size. -/
theorem nat : Ranking fun a b : Nat => decide (a ≤ b) where
  trans _ _ _ hab hbc :=
    decide_eq_true (Nat.le_trans (of_decide_eq_true hab) (of_decide_eq_true hbc))
  total a b := by simpa using Nat.le_total a b

/-- Texts are ranked by their characters. -/
theorem string : Ranking fun a b : String => decide (a ≤ b) where
  trans _ _ _ hab hbc :=
    decide_eq_true (String.le_trans (of_decide_eq_true hab) (of_decide_eq_true hbc))
  total a b := by simpa using String.le_total a b

/-! ## Ties -/

/-- Whether neither of two entries comes after the other. -/
def tied (le : α → α → Bool) (x y : α) : Bool := le x y && le y x

theorem tied_iff : tied le x y = true ↔ le x y = true ∧ le y x = true := Bool.and_eq_true_iff

theorem tied_self (h : Ranking le) (x : α) : tied le x x = true := by
  have hle := h.total x x
  rw [Bool.or_self] at hle
  exact tied_iff.2 ⟨hle, hle⟩

/-- Entries that tie with one entry tie with each other. -/
theorem le_of_tied (h : Ranking le) (hy : tied le x y = true) (hz : tied le x z = true) :
    le y z = true :=
  h.trans y x z (tied_iff.1 hy).2 (tied_iff.1 hz).1

/-! ## What sorting keeps -/

theorem pairwise_mergeSort (h : Ranking le) (xs : List α) :
    (xs.mergeSort le).Pairwise fun x y => le x y = true :=
  List.pairwise_mergeSort h.trans h.total xs

theorem mergeSort_mergeSort (h : Ranking le) (xs : List α) :
    (xs.mergeSort le).mergeSort le = xs.mergeSort le :=
  List.mergeSort_of_pairwise (h.pairwise_mergeSort xs)

/-- Entries that tie keep their order. -/
theorem filter_mergeSort (h : Ranking le) (xs : List α) (x : α) :
    (xs.mergeSort le).filter (tied le x) = xs.filter (tied le x) := by
  have hties : (xs.filter (tied le x)).Pairwise fun y z => le y z = true :=
    List.pairwise_of_forall_mem_list fun y hy z hz =>
      h.le_of_tied (List.mem_filter.1 hy).2 (List.mem_filter.1 hz).2
  have hsub : (xs.filter (tied le x)).Sublist ((xs.mergeSort le).filter (tied le x)) := by
    have hsub := List.sublist_mergeSort h.trans h.total hties List.filter_sublist
    simpa using hsub.filter (tied le x)
  have hlength := ((List.mergeSort_perm xs le).filter (tied le x)).length_eq
  exact (hsub.eq_of_length hlength.symm).symm

/-- An entry of a list is one of every list with the same entries in its tie. -/
theorem mem_of_filter_eq (h : Ranking le) (hties : xs.filter (tied le x) = ys.filter (tied le x))
    (hx : x ∈ xs) : x ∈ ys := by
  have hmem : x ∈ xs.filter (tied le x) := List.mem_filter.2 ⟨hx, h.tied_self x⟩
  rw [hties] at hmem
  exact (List.mem_filter.1 hmem).1

/-- The first entry of a sorted list comes after none of its entries. -/
theorem le_of_mem_cons (h : Ranking le) (hxs : (x :: xs).Pairwise fun x y => le x y = true)
    (hy : y ∈ x :: xs) : le x y = true := by
  rcases List.mem_cons.1 hy with rfl | hy
  · exact (tied_iff.1 (h.tied_self y)).1
  · exact (List.pairwise_cons.1 hxs).1 y hy

/-- Sorted lists with the same entries in every tie are the same. -/
theorem eq_of_pairwise (h : Ranking le) (hxs : xs.Pairwise fun x y => le x y = true)
    (hys : ys.Pairwise fun x y => le x y = true)
    (hties : ∀ x, xs.filter (tied le x) = ys.filter (tied le x)) : xs = ys := by
  induction xs generalizing ys with
  | nil =>
    refine (List.eq_nil_iff_forall_not_mem.2 fun y hy => ?_).symm
    exact List.not_mem_nil (h.mem_of_filter_eq (hties y).symm hy)
  | cons x xs ih =>
    have hx : x ∈ ys := h.mem_of_filter_eq (hties x) List.mem_cons_self
    cases ys with
    | nil => cases hx
    | cons y ys =>
      have hy : y ∈ x :: xs := h.mem_of_filter_eq (hties y).symm List.mem_cons_self
      -- the first entries of both lists tie, so they are the first ones of the same tie
      have hxy : tied le x y = true :=
        tied_iff.2 ⟨h.le_of_mem_cons hxs hy, h.le_of_mem_cons hys hx⟩
      obtain rfl : x = y := by
        have hfirst := hties x
        rw [List.filter_cons_of_pos (h.tied_self x), List.filter_cons_of_pos hxy] at hfirst
        exact (List.cons.inj hfirst).1
      refine congrArg (x :: ·) (ih (List.pairwise_cons.1 hxs).2 (List.pairwise_cons.1 hys).2
        fun z => ?_)
      have hz := hties z
      rw [List.filter_cons, List.filter_cons] at hz
      split at hz
      · exact (List.cons.inj hz).2
      · exact hz

/-- Of the order of a list only the order of tied entries shows when it is sorted. -/
theorem mergeSort_eq_iff (h : Ranking le) : xs.mergeSort le = ys.mergeSort le
    ↔ ∀ x, xs.filter (tied le x) = ys.filter (tied le x) := by
  constructor
  · intro heq x
    rw [← h.filter_mergeSort xs x, heq, h.filter_mergeSort ys x]
  · intro hties
    refine h.eq_of_pairwise (h.pairwise_mergeSort xs) (h.pairwise_mergeSort ys) fun x => ?_
    rw [h.filter_mergeSort, h.filter_mergeSort, hties]

/-! ## Sorting in parts -/

theorem mergeSort_append_mergeSort (h : Ranking le) (xs ys : List α) :
    (xs.mergeSort le ++ ys.mergeSort le).mergeSort le = (xs ++ ys).mergeSort le := by
  refine h.mergeSort_eq_iff.2 fun x => ?_
  simp only [List.filter_append, h.filter_mergeSort]

/-- Lists of which every entry of one is every entry of the other can trade places. -/
theorem append_comm_of_forall_eq (h : ∀ x ∈ xs, ∀ y ∈ ys, x = y) : xs ++ ys = ys ++ xs := by
  cases xs with
  | nil => simp
  | cons x xs =>
    cases ys with
    | nil => simp
    | cons y ys =>
      have hxs : x :: xs = List.replicate (xs.length + 1) y :=
        List.eq_replicate_iff.2 ⟨rfl, fun z hz => h z hz y List.mem_cons_self⟩
      have hys : y :: ys = List.replicate (ys.length + 1) y :=
        List.eq_replicate_iff.2 ⟨rfl, fun z hz => (h x List.mem_cons_self z hz).symm.trans
          (h x List.mem_cons_self y List.mem_cons_self)⟩
      rw [hxs, hys, List.replicate_append_replicate, List.replicate_append_replicate, Nat.add_comm]

/-- Two lists can trade places if entries of both that tie are equal. -/
theorem mergeSort_append_comm (h : Ranking le)
    (hties : ∀ x ∈ xs, ∀ y ∈ ys, le x y = true → le y x = true → x = y) :
    (xs ++ ys).mergeSort le = (ys ++ xs).mergeSort le := by
  refine h.mergeSort_eq_iff.2 fun z => ?_
  rw [List.filter_append, List.filter_append]
  refine append_comm_of_forall_eq fun x hx y hy => ?_
  obtain ⟨hx, hzx⟩ := List.mem_filter.1 hx
  obtain ⟨hy, hzy⟩ := List.mem_filter.1 hy
  exact hties x hx y hy (h.le_of_tied hzx hzy) (h.le_of_tied hzy hzx)

/-- A list in another order is sorted into the same list if entries that tie are equal. -/
theorem mergeSort_eq_of_perm (h : Ranking le)
    (hties : ∀ x ∈ xs, ∀ y ∈ xs, le x y = true → le y x = true → x = y) (hperm : xs.Perm ys) :
    xs.mergeSort le = ys.mergeSort le := by
  refine List.Perm.eq_of_pairwise (fun x y hx hy => ?_)
    (h.pairwise_mergeSort xs) (h.pairwise_mergeSort ys)
    (((List.mergeSort_perm xs le).trans hperm).trans (List.mergeSort_perm ys le).symm)
  exact hties x (List.mem_mergeSort.1 hx) y (hperm.mem_iff.2 (List.mem_mergeSort.1 hy))

end Ranking

/-! ## Listing once -/

/-- What is ordered stays so when every entry is listed once, and then no two entries are equal. -/
theorem pairwise_eraseDups {α : Type} [DecidableEq α] {r : α → α → Prop} :
    ∀ {xs : List α}, xs.Pairwise r → xs.eraseDups.Pairwise fun x y => r x y ∧ x ≠ y
  | [], _ => by rw [List.eraseDups_nil]; exact .nil
  | x :: xs, h => by
    obtain ⟨hx, hxs⟩ := List.pairwise_cons.1 h
    rw [List.eraseDups_cons]
    refine List.pairwise_cons.2 ⟨fun y hy => ?_, pairwise_eraseDups (hxs.filter _)⟩
    obtain ⟨hy, hne⟩ := List.mem_filter.1 (List.mem_eraseDups.1 hy)
    exact ⟨hx y hy, fun heq => by simp [heq] at hne⟩
termination_by xs => xs.length
decreasing_by exact Nat.lt_succ_of_le (List.length_filter_le ..)

end SourceMend
