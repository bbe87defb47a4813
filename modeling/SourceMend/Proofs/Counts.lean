import Mathlib.Algebra.GroupWithZero.Nat
import Mathlib.Data.List.Sort
import SourceMend.Counts

/-!
# Adding counts

Two counts are equal when every name has the same number in both, or is missing
from both (`Counts.ext`).  In a sum of counts a name has the sum of its numbers
(`Counts.get?_merge`), so counts can be added in any order, and their totals add
up (`Counts.total_merge`).  Dropping the names whose number is zero goes through a
sum and keeps the total (`Counts.positive_merge`, `Counts.total_positive`), and such
names are all that `Counts.Padded` lets counts differ in.
-/

namespace SourceMend.Counts

variable {c d : Counts} {k x : String} {n m : Nat} {es : List (String × Nat)}

/-! ## The number of a name -/

/-- In ascending entries the number of a name is the one that is found there. -/
theorem Ascending.lookup_eq_some_iff (h : Ascending es) :
    es.lookup k = some n ↔ (k, n) ∈ es := by
  induction es with
  | nil => simp
  | cons y r ih =>
    obtain ⟨y, m⟩ := y
    obtain ⟨hy, hr⟩ := List.pairwise_cons.1 h
    by_cases hk : k = y
    · subst hk
      have hnot : (k, n) ∉ r := fun hmem => String.lt_irrefl k (hy _ hmem)
      simp [hnot, eq_comm]
    · simp [List.lookup_cons, beq_eq_false_iff_ne.2 hk, ih hr, hk]

/-- A name before all names of some entries has no number there. -/
theorem lookup_eq_none (h : ∀ e ∈ es, k < e.1) : es.lookup k = none := by
  refine List.lookup_eq_none_iff.2 fun e he => bne_iff_ne.2 fun hk => ?_
  exact String.lt_irrefl k (hk ▸ h e he)

theorem lookup_addEntry (h : Ascending es) (k : String) (n : Nat) (x : String) :
    (addEntry k n es).lookup x
      = if x = k then some ((es.lookup k).getD 0 + n) else es.lookup x := by
  induction es with
  | nil =>
    by_cases hx : x = k
    · simp [addEntry, hx]
    · simp [addEntry, List.lookup_cons, hx, beq_eq_false_iff_ne.2 hx]
  | cons y r ih =>
    obtain ⟨y, m⟩ := y
    obtain ⟨hy, hr⟩ := List.pairwise_cons.1 h
    simp only [addEntry]
    split
    · next hlt =>
      have hnone : ((y, m) :: r).lookup k = none :=
        lookup_eq_none (List.forall_mem_cons.2 ⟨hlt, fun e he => String.lt_trans hlt (hy e he)⟩)
      by_cases hx : x = k
      · subst hx
        simp [hnone]
      · rw [List.lookup_cons, beq_eq_false_iff_ne.2 hx, if_neg hx]
    · split
      · next hky =>
        subst hky
        by_cases hx : x = k
        · simp [hx]
        · simp [List.lookup_cons, hx, beq_eq_false_iff_ne.2 hx]
      · next hky =>
        by_cases hx : x = y
        · subst hx
          simp [Ne.symm hky]
        · simp [List.lookup_cons, beq_eq_false_iff_ne.2 hx, beq_eq_false_iff_ne.2 hky, ih hr]

theorem get?_add (c : Counts) (k : String) (n : Nat) (x : String) :
    (c.add k n).get? x = if x = k then some (c.get k + n) else c.get? x :=
  lookup_addEntry c.ascending k n x

theorem get_add (c : Counts) (k : String) (n : Nat) (x : String) :
    (c.add k n).get x = if x = k then c.get k + n else c.get x := by
  rw [get, get?_add]
  split <;> rfl

@[simp] theorem get?_empty (k : String) : (∅ : Counts).get? k = none := rfl

/-- Counts are equal when the numbers of all names are. -/
theorem ext (h : ∀ k, c.get? k = d.get? k) : c = d := by
  have hmem (e : String × Nat) : e ∈ c.entries ↔ e ∈ d.entries := by
    rw [← c.ascending.lookup_eq_some_iff, ← d.ascending.lookup_eq_some_iff]
    have hk := h e.1
    simp only [get?] at hk
    rw [hk]
  have : Std.Asymm fun a b : String × Nat => a.1 < b.1 :=
    ⟨fun a b hab hba => String.lt_irrefl a.1 (String.lt_trans hab hba)⟩
  have hentries := c.ascending.eq_of_mem_iff d.ascending hmem
  cases c
  cases d
  cases hentries
  rfl

/-! ## Sums -/

theorem get?_foldl_add (hes : Ascending es) (c : Counts) (x : String) :
    (es.foldl (fun c e => c.add e.1 e.2) c).get? x
      = Option.merge (· + ·) (c.get? x) (es.lookup x) := by
  induction es generalizing c with
  | nil => simp
  | cons y r ih =>
    obtain ⟨y, m⟩ := y
    obtain ⟨hy, hr⟩ := List.pairwise_cons.1 hes
    rw [List.foldl_cons, ih hr, get?_add]
    by_cases hx : x = y
    · subst hx
      have hnone : r.lookup x = none := lookup_eq_none hy
      cases hc : c.get? x <;> simp [hnone, get, hc]
    · simp [List.lookup_cons, beq_eq_false_iff_ne.2 hx, hx]

/-- A name that both counts hold has the sum of both numbers, and any other keeps its number. -/
theorem get?_merge (c d : Counts) (k : String) :
    (c.merge d).get? k = Option.merge (· + ·) (c.get? k) (d.get? k) :=
  get?_foldl_add d.ascending c k

theorem merge_comm (c d : Counts) : c.merge d = d.merge c := by
  refine ext fun k => ?_
  rw [get?_merge, get?_merge]
  cases c.get? k <;> cases d.get? k <;> simp [Nat.add_comm]

theorem merge_assoc (c d e : Counts) : (c.merge d).merge e = c.merge (d.merge e) := by
  refine ext fun k => ?_
  simp only [get?_merge]
  cases c.get? k <;> cases d.get? k <;> cases e.get? k <;> simp [Nat.add_assoc]

@[simp] theorem merge_empty (c : Counts) : c.merge ∅ = c := rfl

@[simp] theorem empty_merge (c : Counts) : (∅ : Counts).merge c = c := by
  rw [merge_comm, merge_empty]

theorem get_merge (c d : Counts) (k : String) : (c.merge d).get k = c.get k + d.get k := by
  rw [get, get?_merge, get, get]
  cases c.get? k <;> cases d.get? k <;> simp

/-! ## Totals -/

@[simp] theorem total_empty : (∅ : Counts).total = 0 := rfl

@[simp] theorem total_add (c : Counts) (k : String) (n : Nat) :
    (c.add k n).total = c.total + n := by
  have hentries (es : List (String × Nat)) :
      (addEntry k n es).foldr (fun e n => e.2 + n) 0 = es.foldr (fun e n => e.2 + n) 0 + n := by
    induction es with
    | nil => simp [addEntry]
    | cons y r ih =>
      simp only [addEntry]
      split
      · simp only [List.foldr_cons]; omega
      · split <;> simp only [List.foldr_cons] <;> omega
  exact hentries c.entries

@[simp] theorem total_merge (c d : Counts) : (c.merge d).total = c.total + d.total := by
  have hfold (es : List (String × Nat)) (c : Counts) :
      (es.foldl (fun c e => c.add e.1 e.2) c).total
        = c.total + es.foldr (fun e n => e.2 + n) 0 := by
    induction es generalizing c with
    | nil => simp
    | cons y r ih =>
      rw [List.foldl_cons, ih, total_add, List.foldr_cons]
      omega
  exact hfold d.entries c

/-! ## The numbers of some names -/

/-- The numbers of some names added up. -/
def sumOf (c : Counts) (names : List String) : Nat := (names.map c.get).sum

theorem sumOf_merge (c d : Counts) (names : List String) :
    (c.merge d).sumOf names = c.sumOf names + d.sumOf names := by
  induction names with
  | nil => rfl
  | cons k names ih =>
    simp only [sumOf, List.map_cons, List.sum_cons, get_merge] at ih ⊢
    omega

theorem sumOf_eq_zero {names : List String} (h : ∀ k ∈ names, c.get k = 0) : c.sumOf names = 0 := by
  induction names with
  | nil => rfl
  | cons k names ih =>
    obtain ⟨hk, hnames⟩ := List.forall_mem_cons.1 h
    show c.get k + c.sumOf names = 0
    rw [hk, ih hnames]

theorem lookup_cons_of_ne (h : x ≠ k) : ((k, n) :: es).lookup x = es.lookup x := by
  rw [List.lookup_cons, beq_eq_false_iff_ne.2 h]

/-- An entry counts in a sum over distinct names if its name is one of them. -/
theorem sum_lookup_cons {names : List String} (hnames : names.Nodup) (hes : es.lookup k = none) :
    (names.map fun x => (((k, n) :: es).lookup x).getD 0).sum
      = (if k ∈ names then n else 0) + (names.map fun x => (es.lookup x).getD 0).sum := by
  induction names with
  | nil => rfl
  | cons x names ih =>
    obtain ⟨hx, hnames⟩ := List.nodup_cons.1 hnames
    rw [List.map_cons, List.sum_cons, List.map_cons, List.sum_cons, ih hnames]
    by_cases hk : x = k
    · subst hk
      simp [hx, hes]
    · rw [lookup_cons_of_ne hk]
      simp only [List.mem_cons, Ne.symm hk, false_or]
      omega

theorem sum_lookup_eq {names : List String} (hnames : names.Nodup) (hes : Ascending es)
    (h : ∀ k, k ∉ names → (es.lookup k).getD 0 = 0) :
    (names.map fun k => (es.lookup k).getD 0).sum = es.foldr (fun e n => e.2 + n) 0 := by
  induction es with
  | nil => simp
  | cons e es ih =>
    obtain ⟨k, n⟩ := e
    obtain ⟨hk, hes⟩ := List.pairwise_cons.1 hes
    have hnone : es.lookup k = none := lookup_eq_none hk
    have hrest : ∀ x, x ∉ names → (es.lookup x).getD 0 = 0 := by
      intro x hx
      by_cases hxk : x = k
      · rw [hxk, hnone]
        rfl
      · exact (lookup_cons_of_ne hxk) ▸ h x hx
    rw [sum_lookup_cons hnames hnone, ih hes hrest, List.foldr_cons]
    split
    · rfl
    · next hmem =>
      have hn : n = 0 := by simpa using h k hmem
      rw [hn]

/-- Distinct names that have all the numbers have the total. -/
theorem sumOf_eq_total {names : List String} (hnames : names.Nodup)
    (h : ∀ k, k ∉ names → c.get k = 0) : c.sumOf names = c.total :=
  sum_lookup_eq hnames c.ascending h

/-! ## Names with the number zero -/

theorem Ascending.filter (h : Ascending es) (q : String × Nat → Bool) : Ascending (es.filter q) :=
  h.sublist List.filter_sublist

/-- The counts without the names whose number is zero. -/
def positive (c : Counts) : Counts :=
  ⟨c.entries.filter fun e => decide (0 < e.2), c.ascending.filter _⟩

theorem get?_positive (c : Counts) (k : String) :
    c.positive.get? k = (c.get? k).filter fun n => decide (0 < n) := by
  have hmem (n : Nat) : c.positive.get? k = some n ↔ (k, n) ∈ c.entries ∧ 0 < n := by
    rw [get?, c.positive.ascending.lookup_eq_some_iff, positive, List.mem_filter, decide_eq_true_eq]
  refine Option.ext fun n => ?_
  rw [hmem, Option.filter_eq_some_iff, get?, c.ascending.lookup_eq_some_iff, decide_eq_true_eq]

@[simp] theorem positive_empty : (∅ : Counts).positive = ∅ := rfl

theorem positive_merge (c d : Counts) :
    (c.merge d).positive = c.positive.merge d.positive := by
  refine ext fun k => ?_
  rw [get?_positive, get?_merge, get?_merge, get?_positive, get?_positive]
  cases c.get? k with
  | none => simp
  | some m =>
    cases d.get? k with
    | none => simp
    | some n => cases m <;> cases n <;> simp [Option.filter_some]

@[simp] theorem total_positive (c : Counts) : c.positive.total = c.total := by
  have hentries (es : List (String × Nat)) :
      (es.filter fun e => decide (0 < e.2)).foldr (fun e n => e.2 + n) 0
        = es.foldr (fun e n => e.2 + n) 0 := by
    induction es with
    | nil => rfl
    | cons e es ih =>
      by_cases he : 0 < e.2
      · rw [List.filter_cons_of_pos (by simpa using he), List.foldr_cons, List.foldr_cons, ih]
      · rw [List.filter_cons_of_neg (by simpa using he), List.foldr_cons, ih]
        omega
  exact hentries c.entries

/-- Whether counts hold what others hold, and apart from that only names with the number zero. -/
def Padded (c d : Counts) : Prop :=
  ∀ k, d.get? k = c.get? k ∨ c.get? k = none ∧ d.get? k = some 0

theorem Padded.refl (c : Counts) : c.Padded c := fun _ => .inl rfl

theorem Padded.get (h : c.Padded d) (k : String) : d.get k = c.get k := by
  rcases h k with hk | ⟨hc, hd⟩
  · simp [Counts.get, hk]
  · simp [Counts.get, hc, hd]

theorem Padded.add (h : c.Padded d) (k : String) (n : Nat) : (c.add k n).Padded (d.add k n) := by
  intro x
  rw [get?_add, get?_add, h.get k]
  split
  · exact .inl rfl
  · exact h x

/-- A name without a number of its own adds nothing but an entry with zero. -/
theorem Padded.add_zero (h : c.Padded d) (k : String) : c.Padded (d.add k 0) := by
  intro x
  rw [get?_add]
  split
  · next hx =>
    subst hx
    rcases h x with hk | ⟨hc, hd⟩
    · cases hc : c.get? x <;> simp [Counts.get, hk, hc]
    · simp [Counts.get, hc, hd]
  · exact h x

theorem Padded.positive_eq (h : c.Padded d) : c.positive = d.positive := by
  refine ext fun k => ?_
  rw [get?_positive, get?_positive]
  rcases h k with hk | ⟨hc, hd⟩
  · rw [hk]
  · rw [hc, hd]
    rfl

end SourceMend.Counts
