import Mathlib.Algebra.GroupWithZero.Nat
import Mathlib.Data.List.Induction
import Mathlib.Data.List.Nodup
import SourceMend.Diagnostic.Summary
import SourceMend.Proofs.Sorting
import SourceMend.Proofs.Text.Bytes

/-!
# The summary counts every code

Counting the diagnostics one after another keeps a list that has each code so far once,
with the number of its occurrences (`Histogram.tally`).  Such a list is determined by the
codes up to its order (`Histogram.perm`), and no two of its entries tie, so sorting leaves
nothing of that order (`Histogram.mergeSort_eq`).
-/

namespace SourceMend.Diagnostic

variable {c k : String} {codes codes' : List String} {n : Nat}
  {counts counts' : List (String × Nat)} {ds : List Diagnostic}

/-! ## One more occurrence -/

/-- Counting a code leaves the counts of the others alone. -/
theorem mem_tally_of_ne (h : k ≠ c) : (k, n) ∈ tally c counts ↔ (k, n) ∈ counts := by
  induction counts with
  | nil => simp [tally, h]
  | cons x r ih =>
    obtain ⟨y, m⟩ := x
    rw [tally]
    split
    · next hy => simp [hy, h]
    · simp [ih]

/-- The count of a code is one more, or it is one if there was none. -/
theorem mem_tally_self (h : (counts.map Prod.fst).Nodup) : (c, n) ∈ tally c counts
    ↔ (∃ m, (c, m) ∈ counts ∧ n = m + 1) ∨ c ∉ counts.map Prod.fst ∧ n = 1 := by
  induction counts with
  | nil => simp [tally]
  | cons x r ih =>
    obtain ⟨y, m⟩ := x
    obtain ⟨hy, hr⟩ : y ∉ r.map Prod.fst ∧ (r.map Prod.fst).Nodup := List.nodup_cons.1 h
    rw [tally]
    split
    · next hc =>
      subst hc
      have hnot (i : Nat) : (y, i) ∉ r := fun hmem => hy (List.mem_map_of_mem hmem)
      simp [hnot]
    · next hc => simp [ih hr, Ne.symm hc]

theorem nodup_tally (h : (counts.map Prod.fst).Nodup) :
    ((tally c counts).map Prod.fst).Nodup := by
  induction counts with
  | nil => simp [tally]
  | cons x r ih =>
    obtain ⟨y, m⟩ := x
    obtain ⟨hy, hr⟩ : y ∉ r.map Prod.fst ∧ (r.map Prod.fst).Nodup := List.nodup_cons.1 h
    rw [tally]
    split
    · exact h
    · next hc =>
      refine List.nodup_cons.2 ⟨fun hmem => hy ?_, ih hr⟩
      obtain ⟨⟨k, i⟩, hi, rfl : k = y⟩ := List.mem_map.1 hmem
      exact List.mem_map_of_mem ((mem_tally_of_ne hc).1 hi)

theorem sum_tally (c : String) (counts : List (String × Nat)) :
    ((tally c counts).map Prod.snd).sum = (counts.map Prod.snd).sum + 1 := by
  induction counts with
  | nil => rfl
  | cons x r ih =>
    rw [tally]
    split
    · simp only [List.map_cons, List.sum_cons]
      omega
    · simp only [List.map_cons, List.sum_cons, ih]
      omega

/-! ## Histograms -/

/-- That some counts list every code that occurs once, with the number of its occurrences. -/
structure Histogram (codes : List String) (counts : List (String × Nat)) : Prop where
  /-- No code is listed twice. -/
  once : (counts.map Prod.fst).Nodup
  /-- The codes that occur are listed with their numbers. -/
  mem_iff : ∀ c n, (c, n) ∈ counts ↔ 0 < n ∧ codes.count c = n

namespace Histogram

theorem not_mem_keys_iff (h : Histogram codes counts) :
    c ∉ counts.map Prod.fst ↔ codes.count c = 0 := by
  simp [h.mem_iff, Nat.pos_iff_ne_zero]

/-- Counting one more code gives the histogram with it. -/
theorem tally (h : Histogram codes counts) (c : String) :
    Histogram (codes ++ [c]) (tally c counts) where
  once := nodup_tally h.once
  mem_iff k n := by
    by_cases hk : k = c
    · subst hk
      rw [mem_tally_self h.once, h.not_mem_keys_iff, List.count_append, List.count_singleton_self]
      simp only [h.mem_iff]
      constructor
      · rintro (⟨m, ⟨hm, rfl⟩, rfl⟩ | ⟨hzero, rfl⟩)
        · omega
        · omega
      · rintro ⟨hn, rfl⟩
        by_cases hzero : codes.count k = 0
        · exact .inr ⟨hzero, by omega⟩
        · exact .inl ⟨_, ⟨Nat.pos_of_ne_zero hzero, rfl⟩, rfl⟩
    · rw [mem_tally_of_ne hk, h.mem_iff, List.count_append, List.count_singleton,
        beq_eq_false_iff_ne.2 (Ne.symm hk)]
      rfl

/-- The histogram of some codes is determined up to its order, and so is that of any order of
them. -/
theorem perm (h : Histogram codes counts) (h' : Histogram codes' counts')
    (hcodes : codes.Perm codes') : counts.Perm counts' := by
  refine (List.perm_ext_iff_of_nodup (List.Nodup.of_map _ h.once) (.of_map _ h'.once)).2 ?_
  rintro ⟨c, n⟩
  rw [h.mem_iff, h'.mem_iff, hcodes.count_eq]

theorem of_perm (h : Histogram codes counts) (hperm : counts.Perm counts') :
    Histogram codes counts' where
  once := (hperm.map Prod.fst).nodup_iff.1 h.once
  mem_iff c n := hperm.mem_iff.symm.trans (h.mem_iff c n)

end Histogram

/-- The diagnostics counted one after another. -/
theorem histogram_foldl (ds : List Diagnostic) :
    Histogram (ds.map Diagnostic.code) (ds.foldl (fun counts d => tally d.code counts) []) := by
  induction ds using List.reverseRecOn with
  | nil => exact ⟨List.nodup_nil, by simp [Nat.pos_iff_ne_zero, eq_comm]⟩
  | append_singleton ds d ih =>
    rw [List.map_append, List.foldl_append]
    exact ih.tally d.code

theorem sum_foldl (ds : List Diagnostic) :
    ((ds.foldl (fun counts d => tally d.code counts) []).map Prod.snd).sum = ds.length := by
  induction ds using List.reverseRecOn with
  | nil => rfl
  | append_singleton ds d ih =>
    rw [List.foldl_append, List.length_append, ← ih]
    exact sum_tally d.code _

/-! ## The order of the counts -/

theorem precedes_iff {a b : String × Nat} :
    precedes a b = true ↔ b.2 < a.2 ∨ a.2 = b.2 ∧ a.1 ≤ b.1 := by
  simp [precedes]

/-- Counts are ranked by size and then by their codes. -/
theorem ranking_precedes : Ranking precedes where
  trans a b c hab hbc := by
    rw [precedes_iff] at *
    rcases hab with hab | ⟨hab, hle⟩
    · exact .inl (by omega)
    · rcases hbc with hbc | ⟨hbc, hle'⟩
      · exact .inl (by omega)
      · exact .inr ⟨hab.trans hbc, String.le_trans hle hle'⟩
  total a b := by
    rw [Bool.or_eq_true, precedes_iff, precedes_iff]
    rcases Nat.lt_trichotomy a.2 b.2 with hlt | heq | hgt
    · exact .inr (.inl hlt)
    · exact (String.le_total a.1 b.1).imp (fun h => .inr ⟨heq, h⟩) fun h => .inr ⟨heq.symm, h⟩
    · exact .inl (.inl hgt)

theorem eq_of_precedes {a b : String × Nat} (hab : precedes a b = true)
    (hba : precedes b a = true) : a = b := by
  rw [precedes_iff] at hab hba
  have hcount : a.2 = b.2 := by omega
  exact Prod.ext (String.le_antisymm (hab.resolve_left (by omega)).2
    (hba.resolve_left (by omega)).2) hcount

/-! ## The summary -/

/-- The order in which counts are kept is lost when they are sorted. -/
theorem Histogram.mergeSort_eq (h : Histogram codes counts) (h' : Histogram codes' counts')
    (hcodes : codes.Perm codes') : counts.mergeSort precedes = counts'.mergeSort precedes :=
  ranking_precedes.mergeSort_eq_of_perm (fun _ _ _ _ => eq_of_precedes) (h.perm h' hcodes)

theorem histogram_summarize (ds : List Diagnostic) :
    Histogram (ds.map Diagnostic.code) (summarize ds) :=
  (histogram_foldl ds).of_perm (List.mergeSort_perm _ precedes).symm

/-- A summary has the larger count first, and of equal counts the one whose code has the smaller
bytes. -/
theorem pairwise_summarize (ds : List Diagnostic) : (summarize ds).Pairwise fun a b =>
    b.2 < a.2 ∨ a.2 = b.2 ∧ Text.bytes a.1 < Text.bytes b.1 := by
  have hranked := ranking_precedes.pairwise_mergeSort
    (ds.foldl (fun counts d => tally d.code counts) [])
  refine (hranked.and (List.pairwise_map.1 (histogram_summarize ds).once)).imp ?_
  rintro a b ⟨hab, hne⟩
  refine (precedes_iff.1 hab).imp_right fun ⟨hcount, hle⟩ => ⟨hcount, Text.lt_iff_bytes_lt.1 ?_⟩
  exact Classical.byContradiction fun hlt => hne (String.le_antisymm hle (String.not_lt.1 hlt))

/-- The summary is the histogram of the codes, the larger counts first and equal counts by the bytes
of their codes.  Its counts sum to the number of diagnostics.  Neither the order of the diagnostics
nor an order in which the counts were kept shows in it. -/
theorem summarize_ranks (ds : List Diagnostic) :
    Histogram (ds.map Diagnostic.code) (summarize ds)
      ∧ ((summarize ds).Pairwise fun a b =>
          b.2 < a.2 ∨ a.2 = b.2 ∧ Text.bytes a.1 < Text.bytes b.1)
      ∧ ((summarize ds).map Prod.snd).sum = ds.length
      ∧ (∀ ds', ds.Perm ds' → summarize ds' = summarize ds)
      ∧ ∀ counts, Histogram (ds.map Diagnostic.code) counts →
          counts.mergeSort precedes = summarize ds := by
  refine ⟨histogram_summarize ds, pairwise_summarize ds, ?_, fun ds' hds => ?_, fun counts h => ?_⟩
  · exact (((List.mergeSort_perm _ precedes).map Prod.snd).sum_nat).trans (sum_foldl ds)
  · exact (histogram_foldl ds').mergeSort_eq (histogram_foldl ds) (hds.symm.map Diagnostic.code)
  · exact h.mergeSort_eq (histogram_foldl ds) (.refl _)

/-- Diagnostics of three codes, two of which occur equally often. -/
def tied : List Diagnostic :=
  ["E2", "E9", "E2", "E10"].map fun c => { (default : Diagnostic) with code := c }

/-- Among equal counts the code `E10` comes before `E9`, wherever it is reported. -/
theorem summarize_ranks_tied :
    tied.Perm tied.reverse
      ∧ Histogram (tied.map Diagnostic.code) [("E2", 2), ("E9", 1), ("E10", 1)]
      ∧ summarize tied.reverse = [("E2", 2), ("E10", 1), ("E9", 1)] := by
  have hperm : tied.Perm tied.reverse := (List.reverse_perm tied).symm
  have hcounts : Histogram (tied.map Diagnostic.code) [("E2", 2), ("E9", 1), ("E10", 1)] :=
    histogram_foldl tied
  refine ⟨hperm, hcounts, ?_⟩
  have hswap : [("E2", 2), ("E9", 1), ("E10", 1)].Perm [("E2", 2), ("E10", 1), ("E9", 1)] := by
    decide
  have hsorted := hcounts.of_perm hswap
  obtain ⟨-, -, -, horder, hkept⟩ := summarize_ranks tied
  rw [horder _ hperm, ← hkept _ hsorted]
  exact List.mergeSort_of_pairwise (by decide)

end SourceMend.Diagnostic
