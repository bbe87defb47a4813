import SourceMend.Proofs.Counts
import SourceMend.Proofs.Path.Order
import SourceMend.Stats

/-!
# Adding up statistics

Statistics that list the same things in another order are *alike* (`Alike`).
Adding up some statistics in another order gives statistics that are alike
(`Alike.sum`), and normalized statistics that are alike are equal, if their
order tells apart the backups and previews that differ (`Alike.normalize_eq`).
-/

namespace SourceMend.Stats

variable {a b c d : Stats} {ss ts : List Stats}

/-- Some statistics added up. -/
def sum (ss : List Stats) : Stats := ss.foldr merge default

@[simp] theorem sum_nil : sum [] = default := rfl

@[simp] theorem sum_cons (s : Stats) (ss : List Stats) : sum (s :: ss) = s.merge (sum ss) := rfl

/-! ## What a sum lists -/

theorem backups_sum (ss : List Stats) : (sum ss).backups = ss.flatMap backups := by
  induction ss with
  | nil => rfl
  | cons s ss ih => simp [merge, ih]

theorem previews_sum (ss : List Stats) : (sum ss).previews = ss.flatMap previews := by
  induction ss with
  | nil => rfl
  | cons s ss ih => simp [merge, ih]

/-! ## The order of what is added -/

/-- The same numbers, and lists of the same things in some order. -/
structure Alike (a b : Stats) : Prop where
  files : a.files = b.files
  modified : a.modified = b.modified
  skipped : a.skipped = b.skipped
  errored : a.errored = b.errored
  fixes : a.fixes = b.fixes
  byStep : a.byStep = b.byStep
  byRule : a.byRule = b.byRule
  modifiedFiles : a.modifiedFiles.Perm b.modifiedFiles
  backups : a.backups.Perm b.backups
  errors : a.errors.Perm b.errors
  ruleFailures : a.ruleFailures.Perm b.ruleFailures
  previews : a.previews.Perm b.previews
  cancelled : a.cancelled = b.cancelled

namespace Alike

theorem refl (a : Stats) : Alike a a :=
  ⟨rfl, rfl, rfl, rfl, rfl, rfl, rfl, .refl _, .refl _, .refl _, .refl _, .refl _, rfl⟩

theorem trans (h : Alike a b) (h' : Alike b c) : Alike a c where
  files := h.files.trans h'.files
  modified := h.modified.trans h'.modified
  skipped := h.skipped.trans h'.skipped
  errored := h.errored.trans h'.errored
  fixes := h.fixes.trans h'.fixes
  byStep := h.byStep.trans h'.byStep
  byRule := h.byRule.trans h'.byRule
  modifiedFiles := h.modifiedFiles.trans h'.modifiedFiles
  backups := h.backups.trans h'.backups
  errors := h.errors.trans h'.errors
  ruleFailures := h.ruleFailures.trans h'.ruleFailures
  previews := h.previews.trans h'.previews
  cancelled := h.cancelled.trans h'.cancelled

theorem merge (h : Alike a b) (s : Stats) : Alike (s.merge a) (s.merge b) where
  files := by simp [Stats.merge, h.files]
  modified := by simp [Stats.merge, h.modified]
  skipped := by simp [Stats.merge, h.skipped]
  errored := by simp [Stats.merge, h.errored]
  fixes := by simp [Stats.merge, h.fixes]
  byStep := by simp [Stats.merge, h.byStep]
  byRule := by simp [Stats.merge, h.byRule]
  modifiedFiles := h.modifiedFiles.append_left _
  backups := h.backups.append_left _
  errors := h.errors.append_left _
  ruleFailures := h.ruleFailures.append_left _
  previews := h.previews.append_left _
  cancelled := by simp [Stats.merge, h.cancelled]

/-- Two statistics can be added in any order, if none is of a cancelled run. -/
theorem swap (ha : a.cancelled = none) (c : Stats) :
    Alike (a.merge (b.merge c)) (b.merge (a.merge c)) where
  files := by simp only [Stats.merge]; omega
  modified := by simp only [Stats.merge]; omega
  skipped := by simp only [Stats.merge]; omega
  errored := by simp only [Stats.merge]; omega
  fixes := by simp only [Stats.merge]; omega
  byStep := by
    simp only [Stats.merge]
    rw [← Counts.merge_assoc, Counts.merge_comm a.byStep, Counts.merge_assoc]
  byRule := by
    simp only [Stats.merge]
    rw [← Counts.merge_assoc, Counts.merge_comm a.byRule, Counts.merge_assoc]
  modifiedFiles := perm_append_swap ..
  backups := perm_append_swap ..
  errors := perm_append_swap ..
  ruleFailures := perm_append_swap ..
  previews := perm_append_swap ..
  cancelled := by simp [Stats.merge, ha]
where
  perm_append_swap {α : Type} (xs ys zs : List α) :
      (xs ++ (ys ++ zs)).Perm (ys ++ (xs ++ zs)) := by
    rw [← List.append_assoc, ← List.append_assoc]
    exact List.perm_append_comm.append_right zs

/-- The order in which statistics are added up shows in the order of the lists only. -/
theorem sum (h : ss.Perm ts) (hnone : ∀ s ∈ ss, s.cancelled = none) :
    Alike (Stats.sum ss) (Stats.sum ts) := by
  induction h with
  | nil => exact .refl _
  | cons s _ ih => exact (ih fun t ht => hnone t (List.mem_cons_of_mem s ht)).merge s
  | swap s t ss => exact swap (hnone t List.mem_cons_self) _
  | trans h _ ih ih' => exact (ih hnone).trans (ih' fun s hs => hnone s (h.mem_iff.2 hs))

end Alike

/-! ## Normalized statistics -/

theorem failureLe_iff {e f : Failure} :
    failureLe e f = true ↔ e.file < f.file ∨ (e.file = f.file ∧ e.message ≤ f.message) := by
  simp [failureLe]

/-- Failures are ranked by file and then by message. -/
theorem ranking_failureLe : Ranking failureLe where
  trans e f g hef hfg := by
    rw [failureLe_iff] at hef hfg ⊢
    rcases hef with hef | ⟨hef, hm⟩
    · rcases hfg with hfg | ⟨hfg, -⟩
      · exact .inl (String.lt_trans hef hfg)
      · exact .inl (hfg ▸ hef)
    · rcases hfg with hfg | ⟨hfg, hm'⟩
      · exact .inl (hef ▸ hfg)
      · exact .inr ⟨hef.trans hfg, String.le_trans hm hm'⟩
  total e f := by
    rw [Bool.or_eq_true, failureLe_iff, failureLe_iff]
    by_cases hfile : e.file = f.file
    · rcases String.le_total (a := e.message) (b := f.message) with h | h
      · exact .inl (.inr ⟨hfile, h⟩)
      · exact .inr (.inr ⟨hfile.symm, h⟩)
    · by_cases hlt : e.file < f.file
      · exact .inl (.inl hlt)
      · by_cases hgt : f.file < e.file
        · exact .inr (.inl hgt)
        · exact absurd (String.le_antisymm (String.not_lt.1 hgt) (String.not_lt.1 hlt)) hfile

theorem failureLe_antisymm {e f : Failure} (hef : failureLe e f = true)
    (hfe : failureLe f e = true) : e = f := by
  rw [failureLe_iff] at hef hfe
  rcases hef with hef | ⟨hfile, hm⟩
  · rcases hfe with hfe | ⟨hfile, -⟩
    · exact absurd (String.lt_trans hef hfe) (String.lt_irrefl _)
    · exact absurd (hfile ▸ hef) (String.lt_irrefl _)
  · rcases hfe with hfe | ⟨-, hm'⟩
    · exact absurd (hfile ▸ hfe) (String.lt_irrefl _)
    · cases e
      cases f
      simp only at hfile hm hm'
      rw [hfile, String.le_antisymm hm hm']

/-- Names are ranked by their characters. -/
theorem ranking_string : Ranking fun x y : String => decide (x ≤ y) where
  trans _ _ _ hxy hyz :=
    decide_eq_true (String.le_trans (of_decide_eq_true hxy) (of_decide_eq_true hyz))
  total x y := by simpa using String.le_total x y

theorem leString_antisymm {x y : String} (hxy : decide (x ≤ y) = true)
    (hyx : decide (y ≤ x) = true) : x = y :=
  String.le_antisymm (of_decide_eq_true hxy) (of_decide_eq_true hyx)

/-- Backups are ranked by the file that was copied. -/
theorem ranking_backup : Ranking fun x y : Backup => x.file.le y.file :=
  Path.ranking_le.on Backup.file

/-- Previews are ranked by the file that they show. -/
theorem ranking_preview : Ranking fun x y : Preview => decide (x.file ≤ y.file) :=
  ranking_string.on Preview.file

/-- Statistics that list the same things are normalized to the same, if no two backups are of one
file and no two previews are shown under one name. -/
theorem Alike.normalize_eq (h : Alike a b)
    (hbackups : ∀ x ∈ a.backups, ∀ y ∈ a.backups, x.file.Alike y.file → x = y)
    (hpreviews : ∀ x ∈ a.previews, ∀ y ∈ a.previews, x.file = y.file → x = y) :
    a.normalize = b.normalize := by
  have hmodifiedFiles : a.modifiedFiles.mergeSort (fun x y => decide (x ≤ y))
      = b.modifiedFiles.mergeSort fun x y => decide (x ≤ y) :=
    ranking_string.mergeSort_eq_of_perm (fun _ _ _ _ => leString_antisymm) h.modifiedFiles
  have hbackups : a.backups.mergeSort (fun x y => x.file.le y.file)
      = b.backups.mergeSort fun x y => x.file.le y.file :=
    ranking_backup.mergeSort_eq_of_perm
      (fun x hx y hy hxy hyx => hbackups x hx y hy (Path.alike_of_le_of_le hxy hyx)) h.backups
  have herrors : a.errors.mergeSort failureLe = b.errors.mergeSort failureLe :=
    ranking_failureLe.mergeSort_eq_of_perm (fun _ _ _ _ => failureLe_antisymm) h.errors
  have hruleFailures : a.ruleFailures.mergeSort failureLe = b.ruleFailures.mergeSort failureLe :=
    ranking_failureLe.mergeSort_eq_of_perm (fun _ _ _ _ => failureLe_antisymm) h.ruleFailures
  have hpreviews : a.previews.mergeSort (fun x y => decide (x.file ≤ y.file))
      = b.previews.mergeSort fun x y => decide (x.file ≤ y.file) :=
    ranking_preview.mergeSort_eq_of_perm
      (fun x hx y hy hxy hyx => hpreviews x hx y hy (leString_antisymm hxy hyx)) h.previews
  simp only [normalize, h.files, h.modified, h.skipped, h.errored, h.fixes, h.byStep, h.byRule,
    hmodifiedFiles, hbackups, herrors, hruleFailures, hpreviews, h.cancelled]

end SourceMend.Stats
