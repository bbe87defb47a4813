import SourceMend.Proofs.Run.File
import SourceMend.Proofs.Stats

/-!
# Entries with the number zero

A step that is skipped leaves no entries in the statistics, and a step that runs
without a fix leaves entries with the number zero.  An entry with zero for the step
is all that skipping decides (`padded_mend`), so a file is *alike* with and without it
(`alike_mend`), and files that are alike to two jobs leave the same tree and the same
statistics without zeros (`processAll_alike`).
-/

namespace SourceMend

/-! ## Statistics -/

namespace Stats

/-- The statistics without the entries of steps and rules whose number is zero. -/
def withoutZeros (s : Stats) : Stats :=
  { s with byStep := s.byStep.positive, byRule := s.byRule.positive }

theorem withoutZeros_merge (a b : Stats) :
    (a.merge b).withoutZeros = a.withoutZeros.merge b.withoutZeros := by
  simp only [withoutZeros, merge, Counts.positive_merge]

theorem withoutZeros_normalize (s : Stats) :
    s.normalize.withoutZeros = s.withoutZeros.normalize := rfl

end Stats

namespace Run

theorem withoutZeros_noteCancelled (cancelled : Bool) (found : Nat) (s : Stats) :
    (noteCancelled cancelled found s).withoutZeros
      = noteCancelled cancelled found s.withoutZeros := by
  have hfiles : s.withoutZeros.files = s.files := rfl
  simp only [noteCancelled, hfiles]
  split <;> rfl

/-! ## What the steps come to -/

/-- The same text and the same failures, and the same fixes up to entries with zero. -/
structure Progress.Alike (p q : Progress) : Prop where
  /-- The text before the steps is the same. -/
  before : p.outcome.before = q.outcome.before
  /-- The text after the steps is the same. -/
  text : p.outcome.text = q.outcome.text
  /-- The rules have the same fixes. -/
  byRule : p.outcome.byRule.positive = q.outcome.byRule.positive
  /-- The steps have the same fixes. -/
  byStep : p.outcome.byStep.positive = q.outcome.byStep.positive
  /-- The same rules failed. -/
  failures : p.failures = q.failures

/-- What has come of the steps after one more step, which runs even if no rule of it can run. -/
def advanceAlways (on : Subject) (p : Progress) (s : Step) : Progress :=
  let r := s.apply on p.outcome.text
  { outcome :=
      { p.outcome with
        text := r.text
        byRule := p.outcome.byRule.merge r.counts
        byStep := p.outcome.byStep.add s.name r.total }
    failures := p.failures ++ r.failures }

variable {on : Subject} {p q r : Progress} {s : Step}

theorem Progress.Alike.symm (h : p.Alike q) : q.Alike p :=
  ⟨h.before.symm, h.text.symm, h.byRule.symm, h.byStep.symm, h.failures.symm⟩

theorem Progress.Alike.trans (h : p.Alike q) (h' : q.Alike r) : p.Alike r :=
  ⟨h.before.trans h'.before, h.text.trans h'.text, h.byRule.trans h'.byRule,
    h.byStep.trans h'.byStep, h.failures.trans h'.failures⟩

/-- A step that is skipped would do nothing. -/
theorem apply_of_skips (h : skips s on.codes = true) (text : Text) :
    s.apply on text = ⟨text, ∅, []⟩ := by
  have hnone : ∀ r ∈ s.rules, r.acceptsCodes on.codes = false := by
    intro r hr
    cases haccepts : r.acceptsCodes on.codes with
    | false => rfl
    | true =>
      have hany : (s.rules.any fun r => r.acceptsCodes on.codes) = true :=
        List.any_eq_true.2 ⟨r, hr, haccepts⟩
      simp [skips, hany] at h
  have hfold (rules : List Rule) (hrules : ∀ r ∈ rules, r.acceptsCodes on.codes = false)
      (so : StepResult) : rules.foldl (Step.applyRule on) so = so := by
    induction rules generalizing so with
    | nil => rfl
    | cons r rules ih =>
      obtain ⟨hr, hrules⟩ := List.forall_mem_cons.1 hrules
      have hso : Step.applyRule on so r = so := by simp [Step.applyRule, hr]
      rw [List.foldl_cons, hso]
      exact ih hrules so
  exact hfold s.rules hnone _

/-- The same text, failures and fixes of the rules, and the same fixes of the steps but for further
entries with zero. -/
structure Progress.Padded (p q : Progress) : Prop where
  /-- The text before the steps is the same. -/
  before : p.outcome.before = q.outcome.before
  /-- The text after the steps is the same. -/
  text : p.outcome.text = q.outcome.text
  /-- The rules have the same fixes. -/
  byRule : p.outcome.byRule = q.outcome.byRule
  /-- The steps have the same fixes, and in the second case perhaps further entries with zero. -/
  byStep : p.outcome.byStep.Padded q.outcome.byStep
  /-- The same rules failed. -/
  failures : p.failures = q.failures

theorem Progress.Padded.refl (p : Progress) : p.Padded p := ⟨rfl, rfl, rfl, .refl _, rfl⟩

theorem Progress.Padded.alike (h : p.Padded q) : p.Alike q :=
  ⟨h.before, h.text, congrArg Counts.positive h.byRule, h.byStep.positive_eq, h.failures⟩

theorem Progress.Padded.fixes (h : p.Padded q) : p.outcome.fixes = q.outcome.fixes :=
  congrArg Counts.total h.byRule

/-- Skipping a step decides about an entry with zero only. -/
theorem Progress.Padded.advance (h : p.Padded q) (on : Subject) (s : Step) :
    (Run.advance on p s).Padded (Run.advanceAlways on q s) := by
  by_cases hskips : skips s on.codes = true
  · have hp : Run.advance on p s = p := if_pos hskips
    have hq : Run.advanceAlways on q s
        = { q with outcome := { q.outcome with byStep := q.outcome.byStep.add s.name 0 } } := by
      simp only [Run.advanceAlways, apply_of_skips hskips, Counts.merge_empty, StepResult.total,
        Counts.total_empty, List.append_nil]
    rw [hp, hq]
    exact ⟨h.before, h.text, h.byRule, h.byStep.add_zero s.name, h.failures⟩
  · have hp : Run.advance on p s = Run.advanceAlways on p s := if_neg hskips
    rw [hp]
    simp only [Run.advanceAlways, h.text, h.byRule, h.failures]
    exact ⟨h.before, rfl, rfl, h.byStep.add s.name _, rfl⟩

/-- What the steps come to on a text if none is skipped. -/
def mendAlways (steps : List Step) (on : Subject) (text : Text) : Progress :=
  steps.foldl (advanceAlways on) ⟨⟨text, text, ∅, ∅⟩, []⟩

theorem padded_mend (steps : List Step) (on : Subject) (text : Text) :
    (mend steps on text).Padded (mendAlways steps on text) := by
  have hfold (steps : List Step) (p q : Progress) (h : p.Padded q) :
      (steps.foldl (advance on) p).Padded (steps.foldl (advanceAlways on) q) := by
    induction steps generalizing p q with
    | nil => exact h
    | cons s steps ih => exact ih _ _ (h.advance on s)
  exact hfold steps _ _ ⟨rfl, rfl, rfl, .refl _, rfl⟩

theorem alike_mend (steps : List Step) (on : Subject) (text : Text) :
    (mend steps on text).Alike (mendAlways steps on text) :=
  (padded_mend steps on text).alike

/-! ## What a job does to files -/

theorem Progress.Alike.modified (h : p.Alike q) : p.outcome.modified = q.outcome.modified := by
  simp only [Outcome.modified, h.before, h.text]

theorem Progress.Alike.stats (h : p.Alike q) (shown : String) :
    (p.stats shown).withoutZeros = (q.stats shown).withoutZeros := by
  have hfixes : p.outcome.fixes = q.outcome.fixes := by
    rw [Outcome.fixes, ← Counts.total_positive, h.byRule, Counts.total_positive, Outcome.fixes]
  simp only [Progress.stats, Stats.ofOutcome, Stats.withoutZeros, h.modified, hfixes, h.byRule,
    h.byStep, h.failures]

/-- The same is found out about a file, up to entries with zero. -/
inductive ExaminedAlike : Except Fault (ByteArray × Progress) →
    Except Fault (ByteArray × Progress) → Prop where
  /-- The file is not readable as text. -/
  | error (f : Fault) : ExaminedAlike (.error f) (.error f)
  /-- The steps come to something alike. -/
  | ok {bytes : ByteArray} {p q : Progress} : p.Alike q →
      ExaminedAlike (.ok (bytes, p)) (.ok (bytes, q))

variable {job job' : Job} {t : Tree} {file : Path} {files : List Path} {a b : Stats}

theorem examinedAlike_of_mend
    (h : ∀ text, (mend job.steps (job.subject t file) text).Alike
      (mend job'.steps (job'.subject t file) text)) :
    ExaminedAlike (examine job t file) (examine job' t file) := by
  simp only [examine, bind, Except.bind, pure, Except.pure]
  cases t.load file with
  | error f => exact .error f
  | ok bytes =>
    simp only
    cases Text.Utf8.decode bytes with
    | error f => exact .error f
    | ok before => exact .ok (h before.toList)

theorem previewed_alike (hconfig : job.config = job'.config) (h : a.withoutZeros = b.withoutZeros)
    (hp : p.Alike q) (shown : String) :
    (previewed job shown p.outcome a).withoutZeros
      = (previewed job' shown q.outcome b).withoutZeros := by
  have hpreviews (s : Stats) (vs : List Preview) :
      ({ s with previews := s.previews ++ vs } : Stats).withoutZeros
        = { s.withoutZeros with previews := s.withoutZeros.previews ++ vs } := rfl
  unfold previewed
  rw [hconfig, hp.before, hp.text]
  split
  · rw [hpreviews, hpreviews, h]
  · exact h

theorem overwrite_alike (hconfig : job.config = job'.config) (h : a.withoutZeros = b.withoutZeros)
    (bytes : ByteArray) (text : Text) (shown : String) :
    (overwrite job t file bytes text shown a).1.withoutZeros
        = (overwrite job' t file bytes text shown b).1.withoutZeros
      ∧ (overwrite job t file bytes text shown a).2
        = (overwrite job' t file bytes text shown b).2 := by
  have hbackups (s : Stats) (bs : List Backup) :
      ({ s with backups := s.backups ++ bs } : Stats).withoutZeros
        = { s.withoutZeros with backups := s.withoutZeros.backups ++ bs } := rfl
  unfold overwrite
  rw [hconfig]
  cases Backup.write t file bytes job'.config.backup with
  | error f => exact ⟨rfl, rfl⟩
  | ok x =>
    simp only
    cases x.2.write file (String.ofList text).toUTF8 with
    | error f => exact ⟨rfl, rfl⟩
    | ok t' =>
      refine ⟨?_, rfl⟩
      rw [hbackups, hbackups, h]

theorem processFile_alike (hbase : job.base = job'.base) (hconfig : job.config = job'.config)
    (h : ExaminedAlike (examine job t file) (examine job' t file)) :
    (processFile job t file).1.withoutZeros = (processFile job' t file).1.withoutZeros
      ∧ (processFile job t file).2 = (processFile job' t file).2 := by
  unfold processFile
  rw [hbase]
  generalize examine job t file = x at h
  generalize examine job' t file = y at h
  cases h with
  | error f => exact ⟨rfl, rfl⟩
  | @ok bytes p q h =>
    have hstats := h.stats (file.shown job'.base)
    simp only [h.modified]
    by_cases hm : q.outcome.modified = true
    · by_cases hdry : job'.config.dryRun = true
      · simp only [hm, hconfig, hdry, Bool.not_true, Bool.false_eq_true, if_false, if_true, and_true]
        exact previewed_alike hconfig hstats h _
      · simp only [hm, hconfig, hdry, Bool.not_true, Bool.false_eq_true, if_false, h.text]
        exact overwrite_alike hconfig hstats _ _ _
    · simp only [hm, Bool.not_false, if_true, and_true]
      exact hstats

/-- Jobs to which every file is alike do the same to all files, up to entries with zero. -/
theorem processAll_alike (hbase : job.base = job'.base) (hconfig : job.config = job'.config)
    (h : ∀ t file, ExaminedAlike (examine job t file) (examine job' t file)) (t : Tree)
    (files : List Path) :
    (processAll job t files).1.withoutZeros = (processAll job' t files).1.withoutZeros
      ∧ (processAll job t files).2 = (processAll job' t files).2 := by
  induction files generalizing t with
  | nil => exact ⟨rfl, rfl⟩
  | cons file files ih =>
    obtain ⟨hstats, htree⟩ := processFile_alike hbase hconfig (h t file)
    obtain ⟨hrest, hlast⟩ := ih (processFile job' t file).2
    simp only [processAll, htree, Stats.withoutZeros_merge]
    exact ⟨by rw [hstats, hrest], hlast⟩

/-- Plans for the same files whose jobs do the same to them are carried out alike. -/
theorem carryOut_alike {plan plan' : Plan} (hfiles : plan.files = plan'.files)
    (hbase : plan.job.base = plan'.job.base) (hconfig : plan.job.config = plan'.job.config)
    (h : ∀ t file, ExaminedAlike (examine plan.job t file) (examine plan'.job t file))
    (cancelled : Bool) (t : Tree) :
    (plan.carryOut cancelled t).stats.withoutZeros = (plan'.carryOut cancelled t).stats.withoutZeros
      ∧ (plan.carryOut cancelled t).tree = (plan'.carryOut cancelled t).tree := by
  have hprocessed : plan.processed cancelled = plan'.processed cancelled := by
    simp only [Plan.processed, hfiles]
  obtain ⟨hstats, htree⟩ := processAll_alike hbase hconfig h t (plan.processed cancelled)
  rw [hprocessed] at hstats htree
  simp only [Plan.carryOut, hprocessed, hfiles, withoutZeros_noteCancelled,
    Stats.withoutZeros_normalize, hstats, true_and]
  exact htree

end Run
end SourceMend
