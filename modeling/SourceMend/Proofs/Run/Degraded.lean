import SourceMend.Proofs.Catalog.Unscoped
import SourceMend.Proofs.Run.Checker
import SourceMend.Proofs.Run.Zeros
import SourceMend.Run.Verification

/-!
# Runs without diagnostics

When the collection of diagnostics is degraded (`Degraded`), a run goes on without
them, and its scoped rules do nothing.  It is as if the catalog had no scoped rules
(`run_degraded`).  The two runs are compared step by step: a step that the one
skips is empty in the other, and from a step that is mixed the one leaves out the
rules that the other does not have (`alike_mend_unscoped`).  The number of
diagnostics is unknown then, so no verification of the run is ever done.
-/

namespace SourceMend.Run

/-! ## Degraded collections -/

/-- Whether a run that collects diagnostics goes on without any: there is no checker, or it has been
started and has failed. -/
inductive Degraded (t : Tree) : Option Checker → Prop where
  /-- There is no checker. -/
  | missing : Degraded t none
  /-- The checker takes too long. -/
  | timeout {c : Checker} {milliseconds : Nat} : c.collect t [] = .error (.timeout milliseconds) →
      Degraded t (some c)
  /-- The checker fails without a diagnostic. -/
  | unparseable {c : Checker} {exit : Option Int} : c.collect t [] = .error (.unparseable exit) →
      Degraded t (some c)
  /-- The output of the checker cannot be read. -/
  | io {c : Checker} {f : Fault} : c.collect t [] = .error (.io f) → Degraded t (some c)

variable {t : Tree} {checker? other? : Option Checker} {catalog : Catalog} {config : RunConfig}
  {cancelled : Bool} {file : Path} {job job' : Job}

theorem baseline_of_degraded (h : Degraded t checker?) :
    baseline t checker? = .ok (.empty, none) := by
  cases h with
  | missing => rfl
  | timeout h => simp [baseline, h, CheckerError.isFatal]
  | unparseable h => simp [baseline, h, CheckerError.isFatal]
  | io h => simp [baseline, h, CheckerError.isFatal]

/-- Without the number of diagnostics before a run its verification is skipped. -/
theorem ofRun_none (t : Tree) (checker? : Option Checker) (dry : Bool) :
    ∃ reason, Verification.Status.ofRun t checker? none dry = .skipped reason := by
  cases dry with
  | true => exact ⟨_, rfl⟩
  | false => cases checker? <;> exact ⟨_, rfl⟩

/-- A run with a degraded collection starts from no codes and no number of diagnostics. -/
theorem plan_of_degraded {p : Plan} (hdegraded : Degraded t checker?)
    (h : plan catalog checker? config t = .ok p) : p.job.index = .empty ∧ p.baseline = none := by
  have hknown := (planned h).known
  rw [knownBefore, baseline_of_degraded hdegraded, ite_self] at hknown
  obtain ⟨hindex, hbaseline⟩ := Prod.mk.inj (Except.ok.inj hknown)
  exact ⟨hindex.symm, hbaseline.symm⟩

/-! ## Steps without scoped rules -/

theorem codesFor_empty (t : Tree) (file : Path) : Diagnostic.Index.empty.codesFor t file = none := rfl

/-- Where no code is outstanding, the steps come to what they come to without scoped rules. -/
theorem alike_mend_unscoped {on on' : Subject} (hrel : on'.rel = on.rel) (hfull : on'.full = on.full)
    (hnone : on.codes = none) (steps : List Step) (text : Text) :
    (mend steps on text).Alike (mend (steps.map Step.unscoped) on' text) := by
  have hstep (p : Progress) (s : Step) :
      advanceAlways on' p s.unscoped = advanceAlways on p s := by
    simp only [advanceAlways, Step.apply_unscoped hrel hfull hnone, Step.name_unscoped]
  have hsame : mendAlways (steps.map Step.unscoped) on' text = mendAlways steps on text := by
    simp only [mendAlways, List.foldl_map, hstep]
  have h := alike_mend (steps.map Step.unscoped) on' text
  rw [hsame] at h
  exact (alike_mend steps on text).trans h.symm

theorem examinedAlike_unscoped (hsteps : job'.steps = job.steps.map Step.unscoped)
    (hbase : job.base = job'.base) (hindex : job.index = .empty) (t : Tree) (file : Path) :
    ExaminedAlike (examine job t file) (examine job' t file) := by
  refine examinedAlike_of_mend fun text => ?_
  have hnone : (job.subject t file).codes = none := by
    simp only [Job.subject, hindex, codesFor_empty]
  have hrel : (job'.subject t file).rel = (job.subject t file).rel := by
    simp only [Job.subject, hbase]
  rw [hsteps]
  exact alike_mend_unscoped hrel rfl hnone job.steps text

/-! ## Whole runs -/

theorem ready_unscoped : ready catalog.unscoped config t
    = (ready catalog config t).map fun steps => steps.map Step.unscoped := by
  rw [ready_eq, ready_eq, Catalog.select_unscoped]
  cases t.has config.target <;> cases catalog.select config.steps <;> rfl

/-- A run with a degraded collection starts like a run without scoped rules, or fails for the same
reason. -/
theorem plan_unscoped (hdegraded : Degraded t checker?)
    (hother : ∃ found, baseline t other? = .ok found) (catalog : Catalog) (config : RunConfig) :
    match plan catalog checker? config t, plan catalog.unscoped other? config t with
    | .ok p, .ok p' => p'.job.steps = p.job.steps.map Step.unscoped
    | .error e, .error e' => e = e'
    | _, _ => False := by
  obtain ⟨found, hfound⟩ := hother
  cases hready : ready catalog config t with
  | error e =>
    rw [plan_of_not_ready hready, plan_of_not_ready (ready_unscoped.trans (by rw [hready]; rfl))]
  | ok steps =>
    have hready' : ready catalog.unscoped config t = .ok (steps.map Step.unscoped) := by
      rw [ready_unscoped, hready]
      rfl
    obtain ⟨p, hp⟩ := exists_plan hready (baseline_of_degraded hdegraded)
    obtain ⟨p', hp'⟩ := exists_plan hready' hfound
    have hselect := (plan_job hp).1
    have hselect' := (plan_job hp').1
    rw [(ready_eq_ok_iff.mp hready).2] at hselect
    rw [(ready_eq_ok_iff.mp hready').2] at hselect'
    rw [hp, hp']
    simp only
    rw [← Except.ok.inj hselect, ← Except.ok.inj hselect']

/-- A run whose collection of diagnostics is degraded does what a run without scoped rules does,
whatever the checker of that run is.  They leave the same tree, and the same statistics but for
entries with zero, or fail for the same reason.  The run knows no number of diagnostics, so its
verification is skipped. -/
theorem run_degraded (hdegraded : Degraded t checker?)
    (hother : ∃ found, baseline t other? = .ok found) (catalog : Catalog) (config : RunConfig)
    (cancelled : Bool) :
    (∀ steps, Catalog.ofSteps steps = .ok catalog →
      Catalog.ofSteps (steps.map Step.unscoped) = .ok catalog.unscoped)
    ∧ match run catalog checker? config cancelled t, run catalog.unscoped other? config cancelled t with
      | .ok r, .ok r' =>
        r.tree = r'.tree ∧ r.stats.withoutZeros = r'.stats.withoutZeros ∧ r.baseline = none
          ∧ ∀ after again? dry, ∃ reason,
            Verification.Status.ofRun after again? r.baseline dry = .skipped reason
      | .error e, .error e' => e = e'
      | _, _ => False := by
  refine ⟨fun steps hsteps => Catalog.ofSteps_unscoped hsteps, ?_⟩
  have hplans := plan_unscoped hdegraded hother catalog config
  cases hp : plan catalog checker? config t with
  | error e =>
    cases hp' : plan catalog.unscoped other? config t with
    | error e' => simpa [run, hp, hp', Except.map] using hplans
    | ok p' => simp [hp, hp'] at hplans
  | ok p =>
    cases hp' : plan catalog.unscoped other? config t with
    | error e' => simp [hp, hp'] at hplans
    | ok p' =>
      simp only [hp, hp'] at hplans
      simp only [run, hp, hp', Except.map]
      obtain ⟨hindex, hbaseline⟩ := plan_of_degraded hdegraded hp
      obtain ⟨hfiles, hconfig⟩ := plan_eq_ok hp
      obtain ⟨hfiles', hconfig'⟩ := plan_eq_ok hp'
      have hbase : p.job.base = p'.job.base := (plan_job hp).2.1.trans (plan_job hp').2.1.symm
      obtain ⟨hstats, htree⟩ := carryOut_alike (hfiles.trans hfiles'.symm) hbase
        (hconfig.trans hconfig'.symm) (examinedAlike_unscoped hplans hbase hindex) cancelled t
      refine ⟨htree, hstats, hbaseline, ?_⟩
      intro after again? dry
      rw [show (p.carryOut cancelled t).baseline = none from hbaseline]
      exact ofRun_none after again? dry

/-! ## A checker that takes too long -/

/-- A step with a rule that needs an outstanding code and one that needs none. -/
def mixedStep : Step where
  name := "m"
  description := ""
  priority := 2
  rules := [{ name := "free", pattern := ⟨"a", .take (.single 'a'), []⟩, transform := .literal "b" },
    { name := "coded", pattern := ⟨"b", .take (.single 'b'), []⟩, transform := .literal "c",
      codes := ["TS1"] }]

/-- A checker that takes longer than it may. -/
def slowChecker : Checker := ⟨⟨"."⟩, fun _ _ => .error (.timeout 0)⟩

/-- A step that is skipped for want of codes is not counted.  Without its scoped rules it runs and is
counted with zero. -/
theorem run_degraded_sample :
    ∃ r r', run ⟨[scopedStep, mixedStep]⟩ (some slowChecker) { target := ⟨"."⟩ } false sampleTree
        = .ok r
      ∧ run (Catalog.unscoped ⟨[scopedStep, mixedStep]⟩) none { target := ⟨"."⟩ } false sampleTree
        = .ok r'
      ∧ r.stats.byStep.entries = [("m", 2)] ∧ r'.stats.byStep.entries = [("m", 2), ("s", 0)]
      ∧ r.tree = r'.tree ∧ r.stats.withoutZeros = r'.stats.withoutZeros := by
  have hsteps : ((run ⟨[scopedStep, mixedStep]⟩ (some slowChecker) { target := ⟨"."⟩ } false
      sampleTree).toOption.map fun r => r.stats.byStep.entries) = some [("m", 2)] := by
    decide +kernel
  have hsteps' : ((run (Catalog.unscoped ⟨[scopedStep, mixedStep]⟩) none { target := ⟨"."⟩ } false
      sampleTree).toOption.map fun r => r.stats.byStep.entries) = some [("m", 2), ("s", 0)] := by
    decide +kernel
  have hslow : Degraded sampleTree (some slowChecker) := .timeout rfl
  have hnone : ∃ found, baseline sampleTree none = .ok found := ⟨_, rfl⟩
  have hsame := (run_degraded hslow hnone ⟨[scopedStep, mixedStep]⟩ { target := ⟨"."⟩ } false).2
  obtain ⟨r, h, hcounts⟩ := exists_ok_of_toOption_map hsteps
  obtain ⟨r', h', hcounts'⟩ := exists_ok_of_toOption_map hsteps'
  simp only [h, h'] at hsame
  obtain ⟨htree, hstats, -⟩ := hsame
  exact ⟨r, r', h, h', hcounts, hcounts', htree, hstats⟩

end SourceMend.Run
