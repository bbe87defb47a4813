import SourceMend.Proofs.Stats

/-!
# The algebra of statistics

Adding up is associative, and the statistics of no file change nothing (`merge_assoc`,
`merge_default`, `default_merge`).  So it does not show how a sum is bracketed, nor how many
empty parts there are (`Bracketing.value_eq`).

Sorting can wait until everything is added up, and is done once (`normalize_merge_normalize`,
`normalize_normalize`).  What is added up first shows in a sorted sum only where the order does
not tell entries apart: two backups of one file, two previews under one name
(`normalize_merge_swap`).
-/

namespace SourceMend.Stats

variable {a b : Stats} {ss ts : List Stats}

/-! ## Sums -/

theorem merge_assoc (a b c : Stats) : (a.merge b).merge c = a.merge (b.merge c) := by
  simp only [merge, Nat.add_assoc, Counts.merge_assoc, List.append_assoc, Option.orElse_eq_orElse,
    Option.orElse_eq_or, Option.or_assoc]

theorem default_eq : (default : Stats) = {} := rfl

@[simp] theorem merge_default (a : Stats) : a.merge default = a := by
  simp [default_eq, merge]

@[simp] theorem default_merge (a : Stats) : (default : Stats).merge a = a := by
  simp [default_eq, merge]

theorem sum_append (ss ts : List Stats) : sum (ss ++ ts) = (sum ss).merge (sum ts) := by
  induction ss with
  | nil => simp
  | cons s ss ih => rw [List.cons_append, sum_cons, sum_cons, ih, merge_assoc]

/-- The parts that are statistics of something. -/
def nonempty (ss : List Stats) : List Stats := ss.filter fun s => s ≠ default

theorem sum_nonempty (ss : List Stats) : sum (nonempty ss) = sum ss := by
  induction ss with
  | nil => rfl
  | cons s ss ih =>
    rw [nonempty, List.filter_cons]
    split
    · rw [sum_cons, sum_cons, ← ih, nonempty]
    · next hs =>
      obtain rfl : s = default := by simpa using hs
      rw [sum_cons, default_merge, ← ih, nonempty]

/-- The ways to add up some parts: two groups at a time. -/
inductive Bracketing where
  /-- A single part. -/
  | part (s : Stats)
  /-- What two groups of parts add up to. -/
  | join (left right : Bracketing)

namespace Bracketing

/-- The parts in their order. -/
def parts : Bracketing → List Stats
  | part s => [s]
  | join l r => l.parts ++ r.parts

/-- What the parts add up to. -/
def value : Bracketing → Stats
  | part s => s
  | join l r => l.value.merge r.value

theorem value_eq_sum (x : Bracketing) : x.value = sum x.parts := by
  induction x with
  | part s => exact (merge_default s).symm
  | join l r ihl ihr => rw [value, parts, sum_append, ihl, ihr]

/-- Neither the brackets nor empty parts show in what the parts add up to. -/
theorem value_eq {x y : Bracketing} (h : nonempty x.parts = nonempty y.parts) :
    x.value = y.value := by
  rw [value_eq_sum, value_eq_sum, ← sum_nonempty, h, sum_nonempty]

end Bracketing

/-! ## Sorted sums -/

theorem normalize_normalize (a : Stats) : a.normalize.normalize = a.normalize := by
  simp only [normalize, ranking_string.mergeSort_mergeSort, ranking_backup.mergeSort_mergeSort,
    ranking_failureLe.mergeSort_mergeSort, ranking_preview.mergeSort_mergeSort]

/-- Parts that are sorted already are not sorted in vain, nor in another way. -/
theorem normalize_merge_normalize (a b : Stats) :
    (a.normalize.merge b.normalize).normalize = (a.merge b).normalize := by
  simp only [normalize, merge, ranking_string.mergeSort_append_mergeSort,
    ranking_backup.mergeSort_append_mergeSort, ranking_failureLe.mergeSort_append_mergeSort,
    ranking_preview.mergeSort_append_mergeSort]

/-- Two statistics whose entries the order tells apart can be added up either way, unless both say
how far a cancelled run got. -/
theorem normalize_merge_swap (hcancelled : a.cancelled = none ∨ b.cancelled = none)
    (hbackups : ∀ x ∈ a.backups, ∀ y ∈ b.backups, ¬x.file.Alike y.file)
    (hpreviews : ∀ x ∈ a.previews, ∀ y ∈ b.previews, x.file ≠ y.file) :
    (a.merge b).normalize = (b.merge a).normalize := by
  have hmodifiedFiles : (a.modifiedFiles ++ b.modifiedFiles).mergeSort (fun x y => decide (x ≤ y))
      = (b.modifiedFiles ++ a.modifiedFiles).mergeSort fun x y => decide (x ≤ y) :=
    ranking_string.mergeSort_append_comm fun _ _ _ _ => leString_antisymm
  have hfailures (es fs : List Failure) :
      (es ++ fs).mergeSort failureLe = (fs ++ es).mergeSort failureLe :=
    ranking_failureLe.mergeSort_append_comm fun _ _ _ _ => failureLe_antisymm
  have hbackups : (a.backups ++ b.backups).mergeSort (fun x y => x.file.le y.file)
      = (b.backups ++ a.backups).mergeSort fun x y => x.file.le y.file :=
    ranking_backup.mergeSort_append_comm fun x hx y hy hxy hyx =>
      absurd (Path.alike_of_le_of_le hxy hyx) (hbackups x hx y hy)
  have hpreviews : (a.previews ++ b.previews).mergeSort (fun x y => decide (x.file ≤ y.file))
      = (b.previews ++ a.previews).mergeSort fun x y => decide (x.file ≤ y.file) :=
    ranking_preview.mergeSort_append_comm fun x hx y hy hxy hyx =>
      absurd (leString_antisymm hxy hyx) (hpreviews x hx y hy)
  have hfirst : (a.cancelled <|> b.cancelled) = (b.cancelled <|> a.cancelled) := by
    rcases hcancelled with h | h <;> simp [h]
  simp only [normalize, merge, hmodifiedFiles, hfailures a.errors, hfailures a.ruleFailures,
    hbackups, hpreviews, hfirst, Nat.add_comm, Counts.merge_comm a.byStep,
    Counts.merge_comm a.byRule]

/-- The order of two previews of one file shows, so the premise on previews is needed. -/
theorem normalize_merge_ne_of_previews {x y : Preview} (hfile : x.file = y.file) (hne : x ≠ y) :
    (merge { previews := [x] } { previews := [y] }).normalize
      ≠ (merge { previews := [y] } { previews := [x] }).normalize := by
  have hkept {x y : Preview} (hfile : x.file = y.file) :
      (merge { previews := [x] } { previews := [y] }).normalize.previews = [x, y] := by
    refine List.mergeSort_of_pairwise (List.pairwise_pair.2 ?_)
    simp [hfile]
  intro h
  have hpreviews := congrArg previews h
  rw [hkept hfile, hkept hfile.symm] at hpreviews
  exact hne (List.cons.inj hpreviews).1

/-! ## Totals -/

theorem consistent_iff :
    a.consistent = true ↔ a.byRule.total = a.fixes ∧ a.byStep.total = a.fixes := by
  rw [consistent, Bool.and_eq_true, beq_iff_eq, beq_iff_eq]

theorem consistent_merge (ha : a.consistent = true) (hb : b.consistent = true) :
    (a.merge b).consistent = true := by
  rw [consistent_iff] at ha hb ⊢
  simp only [merge, Counts.total_merge]
  omega

/-! ## The laws together -/

/-- Neither the grouping of what is added up shows, nor empty parts, nor whether parts are sorted
first.  The order shows only in who was cancelled first and where entries tie, and totals that
agree with their breakdown still do. -/
theorem merge_laws (a b c : Stats) :
    (a.merge b).merge c = a.merge (b.merge c)
      ∧ a.merge default = a
      ∧ (default : Stats).merge a = a
      ∧ (∀ x : Bracketing, x.value = sum (nonempty x.parts))
      ∧ (∀ x y : Bracketing, nonempty x.parts = nonempty y.parts → x.value = y.value)
      ∧ a.normalize.normalize = a.normalize
      ∧ (a.normalize.merge b.normalize).normalize = (a.merge b).normalize
      ∧ (a.cancelled = none ∨ b.cancelled = none →
          (∀ x ∈ a.backups, ∀ y ∈ b.backups, ¬x.file.Alike y.file) →
          (∀ x ∈ a.previews, ∀ y ∈ b.previews, x.file ≠ y.file) →
          (a.merge b).normalize = (b.merge a).normalize)
      ∧ (a.consistent = true → b.consistent = true → (a.merge b).consistent = true) := by
  refine ⟨merge_assoc a b c, merge_default a, default_merge a, fun x => ?_,
    fun x y => Bracketing.value_eq, normalize_normalize a, normalize_merge_normalize a b,
    normalize_merge_swap, consistent_merge⟩
  rw [sum_nonempty, x.value_eq_sum]

end SourceMend.Stats
