import SourceMend.Proofs.Tree.Discovery
import SourceMend.Run

/-!
# What a run starts from

A run that takes place has a plan (`run_eq_ok`).  `Planned` says what the plan is
made of, and its candidates are different files (`distinctFiles_of_plan`).
Whether the run writes decides nothing about the plan but the settings in it
(`plan_dryRun`).
-/

namespace SourceMend.Run

variable {catalog : Catalog} {checker? : Option Checker} {config : RunConfig} {cancelled : Bool}
  {t : Tree} {p : Plan} {r : Result}

theorem run_eq_ok (h : run catalog checker? config cancelled t = .ok r) :
    ∃ p, plan catalog checker? config t = .ok p ∧ r = p.carryOut cancelled t := by
  simp only [run] at h
  cases hp : plan catalog checker? config t with
  | error e => rw [hp] at h; cases h
  | ok p =>
    rw [hp] at h
    cases h
    exact ⟨p, rfl, rfl⟩

theorem eq_ok_of_toOption {ε α : Type} {x : Except ε α} {a : α} (h : x.toOption = some a) :
    x = .ok a := by
  cases x with
  | error e => cases h
  | ok b =>
    cases h
    rfl

/-- What can be read off a result shows that there is one. -/
theorem exists_ok_of_toOption_map {ε α β : Type} {x : Except ε α} {f : α → β} {y : β}
    (h : x.toOption.map f = some y) : ∃ r, x = .ok r ∧ f r = y := by
  cases x with
  | error e => cases h
  | ok r => exact ⟨r, rfl, Option.some.inj h⟩

/-! ## Plans -/

/-- What is known of the diagnostics before a run of some steps, which is nothing unless the steps
or the verification need them. -/
def knownBefore (t : Tree) (checker? : Option Checker) (config : RunConfig) (steps : List Step) :
    Except CheckerError (Diagnostic.Index × Option Nat) :=
  if needsChecker steps config then baseline t checker? else .ok (.empty, none)

/-- The steps of a run are the selected ones, if its target exists. -/
theorem ready_eq (catalog : Catalog) (config : RunConfig) (t : Tree) :
    ready catalog config t
      = if t.has config.target then (catalog.select config.steps).mapError .catalog
        else .error (.targetMissing config.target) := by
  simp only [ready]
  cases t.has config.target <;> rfl

theorem ready_eq_ok_iff {steps : List Step} :
    ready catalog config t = .ok steps
      ↔ t.has config.target = true ∧ catalog.select config.steps = .ok steps := by
  rw [ready_eq]
  cases t.has config.target <;> cases catalog.select config.steps <;> simp [Except.mapError]

theorem plan_of_ready {steps : List Step} (h : ready catalog config t = .ok steps) :
    plan catalog checker? config t = planFor steps checker? config t := by
  simp only [plan, h, bind, Except.bind]

theorem plan_of_not_ready {e : RunError} (h : ready catalog config t = .error e) :
    plan catalog checker? config t = .error e := by
  simp only [plan, h, bind, Except.bind]

theorem exists_ready_of_plan (h : plan catalog checker? config t = .ok p) :
    ∃ steps, ready catalog config t = .ok steps := by
  cases hready : ready catalog config t with
  | error e =>
    rw [plan_of_not_ready hready] at h
    cases h
  | ok steps => exact ⟨steps, rfl⟩

/-- The plan of a run of some steps rests on what is known before it. -/
theorem planFor_eq (steps : List Step) (checker? : Option Checker) (config : RunConfig) (t : Tree) :
    planFor steps checker? config t
      = ((knownBefore t checker? config steps).mapError RunError.checker).map fun known =>
          ⟨⟨steps, known.1, baseOf t config.target, config⟩, known.2,
            t.discover config.target config.extensions config.excluded⟩ := by
  simp only [planFor, knownBefore, bind, Except.bind, pure, Except.pure]
  cases needsChecker steps config with
  | false => rfl
  | true => cases baseline t checker? <;> rfl

/-- What a plan is made of. -/
structure Planned (catalog : Catalog) (checker? : Option Checker) (config : RunConfig) (t : Tree)
    (p : Plan) : Prop where
  /-- The steps are the selected ones. -/
  steps : catalog.select config.steps = .ok p.job.steps
  /-- The diagnostics have been collected if they are needed. -/
  known : knownBefore t checker? config p.job.steps = .ok (p.job.index, p.baseline)
  /-- Files are shown from the target. -/
  base : p.job.base = baseOf t config.target
  /-- The candidates are the files that are discovered. -/
  files : p.files = t.discover config.target config.extensions config.excluded
  /-- The settings are those of the run. -/
  config : p.job.config = config

theorem planned (h : plan catalog checker? config t = .ok p) :
    Planned catalog checker? config t p := by
  obtain ⟨steps, hready⟩ := exists_ready_of_plan h
  rw [plan_of_ready hready, planFor_eq] at h
  cases hknown : knownBefore t checker? config steps with
  | error e =>
    rw [hknown] at h
    cases h
  | ok known =>
    rw [hknown] at h
    cases h
    exact ⟨(ready_eq_ok_iff.mp hready).2, hknown, rfl, rfl, rfl⟩

theorem plan_eq_ok (h : plan catalog checker? config t = .ok p) :
    p.files = t.discover config.target config.extensions config.excluded
      ∧ p.job.config = config :=
  ⟨(planned h).files, (planned h).config⟩

/-- The files that a run processes are candidates. -/
theorem mem_discover_of_mem_processed (h : plan catalog checker? config t = .ok p) {q : Path}
    (hq : q ∈ p.processed cancelled) :
    q ∈ t.discover config.target config.extensions config.excluded := by
  rw [← (plan_eq_ok h).1]
  cases cancelled with
  | true => cases hq
  | false => exact hq

/-- The files that a run processes are different files of the tree. -/
theorem distinctFiles_of_plan (h : plan catalog checker? config t = .ok p) (cancelled : Bool) :
    t.DistinctFiles (p.processed cancelled) := by
  cases cancelled with
  | true => exact Tree.distinctFiles_nil t
  | false =>
    change t.DistinctFiles p.files
    rw [(plan_eq_ok h).1]
    exact Tree.distinctFiles_discover t _ _ _

/-- A plan for a run that writes or does not write. -/
def Plan.withDryRun (p : Plan) (dry : Bool) : Plan := { p with job.config.dryRun := dry }

/-- Whether a run writes does not matter for what it starts from. -/
theorem plan_dryRun (catalog : Catalog) (checker? : Option Checker) (config : RunConfig)
    (t : Tree) (dry : Bool) :
    plan catalog checker? { config with dryRun := dry } t
      = (plan catalog checker? config t).map fun p => p.withDryRun dry := by
  have hready : ready catalog { config with dryRun := dry } t = ready catalog config t := rfl
  have hknown (steps : List Step) : knownBefore t checker? { config with dryRun := dry } steps
      = knownBefore t checker? config steps := rfl
  simp only [plan, hready, bind, Except.bind]
  cases ready catalog config t with
  | error e => rfl
  | ok steps =>
    simp only [planFor_eq, hknown]
    cases knownBefore t checker? config steps <;> rfl

/-! ## Noting a cancellation -/

theorem noteCancelled_eq (cancelled : Bool) (found : Nat) (s : Stats) :
    ∃ note, noteCancelled cancelled found s = { s with cancelled := note } := by
  unfold noteCancelled
  split
  · exact ⟨_, rfl⟩
  · exact ⟨s.cancelled, rfl⟩

/-- The backups of a run are those of its files, in another order. -/
theorem backups_carryOut_perm (p : Plan) (cancelled : Bool) (t : Tree) :
    (p.carryOut cancelled t).stats.backups.Perm
      (processAll p.job t (p.processed cancelled)).1.backups := by
  obtain ⟨note, hnote⟩ := noteCancelled_eq cancelled p.files.length
    (processAll p.job t (p.processed cancelled)).1.normalize
  simp only [Plan.carryOut, hnote]
  exact List.mergeSort_perm _ _

end SourceMend.Run
