import SourceMend.Proofs.Diff.Unified
import SourceMend.Proofs.Run.Contribution
import SourceMend.Proofs.Run.Effect
import SourceMend.Proofs.Run.Mend

/-!
# The statistics of a run add up

Every candidate is counted once and ends up modified, skipped or errored, the
fixes are counted alike by rule and by step, and the lists are as long as the
numbers say (`Accounted`).  One file is accounted for (`Processed.accounted`),
and so is what is added up (`Accounted.merge`).
-/

namespace SourceMend.Run

variable {config : RunConfig} {job : Job} {t : Tree} {p : Path} {ps : List Path}
  {m n : Nat} {s s' : Stats} {x : Stats × Tree}

/-- The numbers of some statistics agree with each other, with what is listed and with the number
of files that were found. -/
structure Accounted (config : RunConfig) (found : Nat) (s : Stats) : Prop where
  /-- Every file that was found is counted. -/
  found : s.files = found
  /-- A file is modified, skipped or errored. -/
  files : s.files = s.modified + s.skipped + s.errored
  /-- Every fix is counted for a rule. -/
  byRule : s.byRule.total = s.fixes
  /-- Every fix is counted for a step. -/
  byStep : s.byStep.total = s.fixes
  /-- Every modified file is listed. -/
  modifiedFiles : s.modifiedFiles.length = s.modified
  /-- Every error is listed. -/
  errors : s.errors.length = s.errored
  /-- Every modified file has a backup, unless nothing is written. -/
  backups : s.backups.length = if config.dryRun then 0 else s.modified
  /-- Every change that is not written is shown, if it is to be shown. -/
  previews : s.previews.length = if config.dryRun && config.diff then s.modified else 0
  /-- What is shown is not empty. -/
  shown : ∀ v ∈ s.previews, v.diff ≠ ""

namespace Accounted

theorem consistent (h : Accounted config n s) : s.consistent = true := by
  simp [Stats.consistent, h.byRule, h.byStep]

theorem default (config : RunConfig) : Accounted config 0 default :=
  ⟨rfl, rfl, rfl, rfl, rfl, rfl, (ite_self 0).symm, (ite_self 0).symm, fun _ hv => nomatch hv⟩

theorem merge (h : Accounted config m s) (h' : Accounted config n s') :
    Accounted config (m + n) (s.merge s') where
  found := by simp [Stats.merge, h.found, h'.found]
  files := by simp only [Stats.merge, h.files, h'.files]; omega
  byRule := by simp [Stats.merge, h.byRule, h'.byRule]
  byStep := by simp [Stats.merge, h.byStep, h'.byStep]
  modifiedFiles := by simp [Stats.merge, h.modifiedFiles, h'.modifiedFiles]
  errors := by simp [Stats.merge, h.errors, h'.errors]
  backups := by
    simp only [Stats.merge, List.length_append, h.backups, h'.backups]
    split <;> rfl
  previews := by
    simp only [Stats.merge, List.length_append, h.previews, h'.previews]
    split <;> rfl
  shown v hv := (List.mem_append.1 hv).elim (h.shown v) (h'.shown v)

theorem normalize (h : Accounted config n s) : Accounted config n s.normalize where
  found := h.found
  files := h.files
  byRule := h.byRule
  byStep := h.byStep
  modifiedFiles := (List.length_mergeSort _).trans h.modifiedFiles
  errors := (List.length_mergeSort _).trans h.errors
  backups := (List.length_mergeSort _).trans h.backups
  previews := (List.length_mergeSort _).trans h.previews
  shown v hv := h.shown v ((List.mergeSort_perm _ _).mem_iff.1 hv)

end Accounted

/-! ## One file -/

theorem accounted_failed (config : RunConfig) (shown : String) (e : FileError) :
    Accounted config 1 (failed shown e) :=
  ⟨rfl, rfl, rfl, rfl, rfl, rfl, (ite_self 0).symm, (ite_self 0).symm, fun _ hv => nomatch hv⟩

theorem accounted_unchanged {progress : Progress} (hc : progress.Counted)
    (hm : progress.outcome.modified = false) (shown : String) :
    Accounted config 1 (progress.stats shown) where
  found := rfl
  files := by simp [Progress.stats, Stats.ofOutcome, hm]
  byRule := rfl
  byStep := hc.total
  modifiedFiles := by simp [Progress.stats, Stats.ofOutcome, hm]
  errors := rfl
  backups := by simp [Progress.stats, Stats.ofOutcome, hm]
  previews := by simp [Progress.stats, Stats.ofOutcome, hm]
  shown _ hv := nomatch hv

theorem accounted_previewed {progress : Progress} (hc : progress.Counted)
    (hm : progress.outcome.modified = true) (hdry : job.config.dryRun = true) (shown : String) :
    Accounted job.config 1 (previewed job shown progress.outcome (progress.stats shown)) := by
  have hne : progress.outcome.before ≠ progress.outcome.text := fun heq => by
    simp [Outcome.modified, heq] at hm
  by_cases hdiff : job.config.diff = true
  · rw [previewed, if_pos hdiff]
    constructor
    case byStep => exact hc.total
    case shown =>
      intro v hv
      obtain rfl := List.mem_singleton.1 hv
      exact fun hempty => Diff.unified_ne_nil hne (String.ofList_eq_empty_iff.1 hempty)
    all_goals simp [Progress.stats, Stats.ofOutcome, Outcome.fixes, hm, hdry, hdiff]
  · rw [previewed, if_neg hdiff]
    constructor
    case byStep => exact hc.total
    case shown =>
      intro v hv
      exact absurd hv List.not_mem_nil
    all_goals simp [Progress.stats, Stats.ofOutcome, Outcome.fixes, hm, hdry, hdiff]

theorem accounted_replaced {progress : Progress} (hc : progress.Counted)
    (hm : progress.outcome.modified = true) (hwet : config.dryRun = false) (shown : String)
    (b : Backup) : Accounted config 1 { progress.stats shown with backups := [b] } := by
  constructor
  case byStep => exact hc.total
  case shown => exact fun _ hv => nomatch hv
  all_goals simp [Progress.stats, Stats.ofOutcome, Outcome.fixes, hm, hwet]

theorem counted_of_examine {bytes : ByteArray} {progress : Progress}
    (h : examine job t p = .ok (bytes, progress)) : progress.Counted := by
  obtain ⟨-, before, -, rfl⟩ := examine_eq_ok h
  exact counted_mend _ _ _

/-- One file is accounted for, whatever becomes of it. -/
theorem Processed.accounted (h : Processed job t p x) : Accounted job.config 1 x.1 := by
  cases h with
  | unreadable => exact accounted_failed _ _ _
  | unchanged hok hm => exact accounted_unchanged (counted_of_examine hok) hm _
  | previewed hok hm hdry => exact accounted_previewed (counted_of_examine hok) hm hdry _
  | notCopied => exact accounted_failed _ _ _
  | replaced hok hm hwet _ => exact accounted_replaced (counted_of_examine hok) hm hwet _ _

/-- A file that is listed as modified has a fix. -/
theorem Processed.pos (h : Processed job t p x) (hne : x.1.modifiedFiles ≠ []) :
    0 < x.1.fixes := by
  cases h with
  | unreadable => exact absurd rfl hne
  | unchanged _ hm => simp [Progress.stats, Stats.ofOutcome, hm] at hne
  | previewed hok hm =>
    have hpos := (counted_of_examine hok).pos hm
    unfold Run.previewed
    split <;> exact hpos
  | notCopied => exact absurd rfl hne
  | replaced hok hm => exact (counted_of_examine hok).pos hm

/-! ## Whole runs -/

theorem accounted_processAll (job : Job) (t : Tree) (ps : List Path) :
    Accounted job.config ps.length (processAll job t ps).1 := by
  induction ps generalizing t with
  | nil => exact .default _
  | cons p ps ih =>
    have h := (processed job t p).accounted.merge (ih (processFile job t p).2)
    rwa [Nat.add_comm] at h

/-- A run that writes nothing has no backups. -/
theorem backups_of_dryRun (hdry : job.config.dryRun = true) (t : Tree) (ps : List Path) :
    (processAll job t ps).1.backups = [] :=
  List.length_eq_zero_iff.1 ((accounted_processAll job t ps).backups.trans (if_pos hdry))

theorem pos_of_mem_contributions (hs : s ∈ contributions job t ps) (hne : s.modifiedFiles ≠ []) :
    0 < s.fixes := by
  induction ps generalizing t with
  | nil => cases hs
  | cons p ps ih =>
    rcases List.mem_cons.1 hs with rfl | hs
    · exact (processed job t p).pos hne
    · exact ih hs

/-- The statistics of a run that is not cancelled add up: they account for every file that is found,
and they are the sum of what the files contribute, with a fix from each that is listed as
modified. -/
theorem run_accounted {catalog : Catalog} {checker? : Option Checker} {r : Result}
    (h : run catalog checker? config false t = .ok r) :
    Accounted config (t.discover config.target config.extensions config.excluded).length r.stats
      ∧ r.stats.consistent = true
      ∧ ∃ plan, Run.plan catalog checker? config t = .ok plan
        ∧ r.stats = (Stats.sum (contributions plan.job t plan.files)).normalize
        ∧ ∀ s ∈ contributions plan.job t plan.files, s.modifiedFiles ≠ [] → 0 < s.fixes := by
  obtain ⟨plan, hplan, rfl⟩ := run_eq_ok h
  obtain ⟨hfiles, hconfig⟩ := plan_eq_ok hplan
  have haccounted : Accounted config (t.discover config.target config.extensions
      config.excluded).length (plan.carryOut false t).stats := by
    rw [← hfiles, ← hconfig]
    exact (accounted_processAll plan.job t plan.files).normalize
  exact ⟨haccounted, haccounted.consistent, plan, hplan, carryOut_stats plan false t,
    fun s hs => pos_of_mem_contributions hs⟩

/-- The only file that is found is modified, and both of its fixes are counted. -/
theorem run_accounted_sample :
    ∃ r, run ⟨[sampleStep]⟩ none { target := ⟨"."⟩ } false sampleTree = .ok r
      ∧ r.stats.fixes = 2 ∧ r.stats.backups.length = 1
      ∧ Accounted { target := ⟨"."⟩ } 1 r.stats := by
  have hrun : ((run ⟨[sampleStep]⟩ none { target := ⟨"."⟩ } false sampleTree).toOption.map
      fun r => (r.stats.files, r.stats.modified, r.stats.fixes)) = some (1, 1, 2) := by
    decide +kernel
  cases h : run ⟨[sampleStep]⟩ none { target := ⟨"."⟩ } false sampleTree with
  | error e => simp [h, Except.toOption] at hrun
  | ok r =>
    simp only [h, Except.toOption, Option.map_some, Option.some.injEq, Prod.mk.injEq] at hrun
    obtain ⟨hfiles, hmodified, hfixes⟩ := hrun
    obtain ⟨haccounted, -⟩ := run_accounted h
    rw [← haccounted.found, hfiles] at haccounted
    exact ⟨r, rfl, hfixes, haccounted.backups.trans hmodified, haccounted⟩

end SourceMend.Run
