import SourceMend.Cli.Execution
import SourceMend.Proofs.Report.Printable
import SourceMend.Proofs.Run.Accounting

/-!
# Exit codes

A run on the command line either fails, and then everything that can go wrong
has gone wrong before the first file is written, or takes place (`executed`).
From this its exit code can be read off (`execute_exit`): two for a failure, one
for a strict run whose verification leaves a doubt, and zero for everything else,
as long as the report can be printed.

A failure leaves the tree alone: the checker stops a run only if it could not be
started (`CheckerCommand.leaves_of_isFatal`).  Dry runs and checks do to the tree
what the checker does to it, and the other commands leave it alone.
-/

namespace SourceMend

/-! ## The checker -/

/-- A checker that stops a run has not been started. -/
theorem CheckerCommand.leaves_of_isFatal {c : CheckerCommand} {launch : Launcher} {t : Tree}
    {e : CheckerError} (h : (c.checker launch).collect t [] = .error e)
    (hfatal : e.isFatal = true) :
    c.leaves launch t = t := by
  simp only [Checker.collect, checker, bind, Except.bind] at h
  unfold leaves
  unfold ask at h ⊢
  split
  · next ending t' hlaunch =>
    rw [hlaunch] at h
    cases ending with
    | ended output =>
      simp only [said, Checker.Output.diagnostics] at h
      split at h
      · cases h
        cases hfatal
      · cases h
    | stopped =>
      cases h
      cases hfatal
    | unread fault =>
      cases h
      cases hfatal
  · rfl

namespace Cli

variable {s : Surroundings} {t : Tree} {o : Overrides} {x : Settings} {p : Preparation}
  {r : Run.Result} {out : Outcome}

/-! ## Two ways for a run to end -/

/-- What a run needs, found for its settings. -/
structure Prepared (t : Tree) (o : Overrides) (x : Settings) (p : Preparation) : Prop where
  /-- The settings. -/
  settings : Settings.resolve t o = .ok x
  /-- The catalog. -/
  catalog : x.loadCatalog t = .ok p.catalog
  /-- The command of the checker. -/
  command : commandOf x = .ok p.command
  /-- The steps. -/
  steps : p.catalog.select x.steps = .ok p.steps

/-- What makes a run fail. -/
inductive RunFails (s : Surroundings) (t : Tree) (o : Overrides) : Prop where
  /-- The settings cannot be used. -/
  | settings {e : SettingsError} : Settings.resolve t o = .error e → RunFails s t o
  /-- The catalog cannot be used. -/
  | catalog {x : Settings} {e : CatalogError} : Settings.resolve t o = .ok x →
      x.loadCatalog t = .error e → RunFails s t o
  /-- The command names no checker. -/
  | checker {x : Settings} {e : CheckerError} : Settings.resolve t o = .ok x →
      commandOf x = .error e → RunFails s t o
  /-- Steps are selected that do not exist. -/
  | selection {x : Settings} {c : Catalog} {e : CatalogError} : Settings.resolve t o = .ok x →
      x.loadCatalog t = .ok c → c.select x.steps = .error e → RunFails s t o
  /-- The run cannot take place. -/
  | run {x : Settings} {p : Preparation} {e : RunError} : Prepared t o x p →
      startRun s t x p = .error e → RunFails s t o

/-- A run that takes place, with its settings, what it needs and what it comes to. -/
structure TakesPlace (s : Surroundings) (t : Tree) (o : Overrides) (x : Settings) (p : Preparation)
    (r : Run.Result) : Prop extends Prepared t o x p where
  /-- The run. -/
  run : startRun s t x p = .ok r

/-- Whether a run takes place that is to be strict about its verification, and the verification does
not find that no diagnostic is left. -/
def RunUnclean (s : Surroundings) (t : Tree) (o : Overrides) : Prop :=
  ∃ x p r, TakesPlace s t o x p r ∧ x.strict = true ∧ x.verify = true
    ∧ ¬∃ v, Verification.Status.ofRun r.tree (some (p.command.checker s.relaunch)) r.baseline
        x.dryRun = .done v ∧ v.new = 0

/-- Whether the report of a run can be printed, should it take place. -/
def RunPrintable (s : Surroundings) (t : Tree) (o : Overrides) : Prop :=
  ∀ x p r, TakesPlace s t o x p r → x.output = "json" → r.stats.Printable

/-- Whether a tree is the one that was there, or the one that the checker leaves of it. -/
def AsChecked (s : Surroundings) (t : Tree) (o : Overrides) (t' : Tree) : Prop :=
  t' = t ∨ ∃ x c, Settings.resolve t o = .ok x ∧ commandOf x = .ok c ∧ t' = c.leaves s.launch t

theorem Prepared.unique {x' : Settings} {p' : Preparation} (h : Prepared t o x p)
    (h' : Prepared t o x' p') : x = x' ∧ p = p' := by
  obtain ⟨catalog, command, steps⟩ := p
  obtain ⟨catalog', command', steps'⟩ := p'
  obtain rfl := Except.ok.inj (h.settings.symm.trans h'.settings)
  obtain rfl : catalog = catalog' := Except.ok.inj (h.catalog.symm.trans h'.catalog)
  obtain rfl : command = command' := Except.ok.inj (h.command.symm.trans h'.command)
  obtain rfl : steps = steps' := Except.ok.inj (h.steps.symm.trans h'.steps)
  exact ⟨rfl, rfl⟩

/-- A run that takes place does not fail. -/
theorem TakesPlace.not_fails (h : TakesPlace s t o x p r) : ¬RunFails s t o := by
  intro hfails
  cases hfails with
  | settings he =>
    rw [h.settings] at he
    cases he
  | catalog hx he =>
    cases h.settings.symm.trans hx
    rw [h.catalog] at he
    cases he
  | checker hx he =>
    cases h.settings.symm.trans hx
    rw [h.command] at he
    cases he
  | selection hx hc he =>
    cases h.settings.symm.trans hx
    cases h.catalog.symm.trans hc
    rw [h.steps] at he
    cases he
  | run hp he =>
    obtain ⟨rfl, rfl⟩ := h.toPrepared.unique hp
    rw [h.run] at he
    cases he

theorem TakesPlace.unique {x' : Settings} {p' : Preparation} {r' : Run.Result}
    (h : TakesPlace s t o x p r) (h' : TakesPlace s t o x' p' r') : x = x' ∧ p = p' ∧ r = r' := by
  obtain ⟨rfl, rfl⟩ := h.toPrepared.unique h'.toPrepared
  exact ⟨rfl, rfl, Except.ok.inj (h.run.symm.trans h'.run)⟩

/-! ## What a run needs -/

/-- What a run needs is there, or the run fails. -/
theorem prepare_cases (hx : Settings.resolve t o = .ok x) :
    (∃ f, prepare t x = .error f ∧ RunFails s t o)
      ∨ ∃ p, prepare t x = .ok p ∧ Prepared t o x p := by
  simp only [prepare, bind, Except.bind, pure, Except.pure]
  cases hcatalog : x.loadCatalog t with
  | error e => exact .inl ⟨.catalog e, rfl, .catalog hx hcatalog⟩
  | ok catalog =>
    cases hcommand : commandOf x with
    | error e => exact .inl ⟨.checker e, rfl, .checker hx hcommand⟩
    | ok command =>
      cases hsteps : catalog.select x.steps with
      | error e =>
        simp only [Except.mapError, hsteps]
        exact .inl ⟨.catalog e, rfl, .selection hx hcatalog hsteps⟩
      | ok steps =>
        simp only [Except.mapError, hsteps]
        exact .inr ⟨⟨catalog, command, steps⟩, rfl, hx, hcatalog, hcommand, hsteps⟩

/-! ## What a run comes to -/

/-- A run takes place on the tree that was there, or on the one that its checker leaves. -/
theorem treeBefore_cases (s : Surroundings) (t : Tree) (x : Settings) (p : Preparation) :
    treeBefore s t x p = t ∨ treeBefore s t x p = p.command.leaves s.launch t := by
  simp only [treeBefore]
  split
  · split
    · exact .inr rfl
    · exact .inl rfl
  · exact .inl rfl

/-- The checker is asked by a run for what it says of the tree before. -/
theorem collect_heldAt (c : Checker) (t t' : Tree) (files : List String) :
    (c.heldAt t).collect t' files = c.collect t files := rfl

/-- A run that cannot take place leaves the tree alone: it stops before the checker is started, or
because that is not possible. -/
theorem treeBefore_of_error {e : RunError} (h : startRun s t x p = .error e) :
    treeBefore s t x p = t := by
  simp only [startRun, bind, Except.bind] at h
  cases hready : Run.ready p.catalog (x.runConfig s.stamp) t with
  | error e' => simp only [treeBefore, hready]
  | ok steps =>
    simp only [hready] at h
    by_cases hneeds : Run.needsChecker steps (x.runConfig s.stamp) = true
    · have hbefore : treeBefore s t x p = p.command.leaves s.launch t := by
        simp only [treeBefore, hready, hneeds, if_true]
      rw [Run.planFor_eq, Run.knownBefore, if_pos hneeds, Run.baseline] at h
      simp only [collect_heldAt] at h
      cases hcollect : (p.command.checker s.launch).collect t [] with
      | ok ds =>
        rw [hcollect] at h
        cases h
      | error fault =>
        rw [hcollect] at h
        by_cases hfatal : fault.isFatal = true
        · exact hbefore.trans (CheckerCommand.leaves_of_isFatal hcollect hfatal)
        · simp only [hfatal, Bool.false_eq_true, if_false] at h
          cases h
    · simp only [treeBefore, hready, hneeds, Bool.false_eq_true, if_false]

/-- A run that takes place carries out a plan. -/
theorem exists_plan_of_startRun (h : startRun s t x p = .ok r) :
    ∃ plan : Run.Plan, plan.job.config = x.runConfig s.stamp
      ∧ r = plan.carryOut false (treeBefore s t x p) := by
  simp only [startRun, bind, Except.bind] at h
  split at h
  · cases h
  · next steps _ =>
    rw [Run.planFor_eq] at h
    cases hknown : Run.knownBefore (treeBefore s t x p)
        (some ((p.command.checker s.launch).heldAt t)) (x.runConfig s.stamp) steps with
    | error e =>
      rw [hknown] at h
      cases h
    | ok known =>
      rw [hknown] at h
      cases h
      exact ⟨_, rfl, rfl⟩

/-- A checker that leaves the tree alone says to a run on the command line what it says to any. -/
theorem startRun_eq_run (h : p.command.leaves s.launch t = t) :
    startRun s t x p = Run.run p.catalog (some ((p.command.checker s.launch).heldAt t))
      (x.runConfig s.stamp) false t := by
  have hbefore : treeBefore s t x p = t := (treeBefore_cases s t x p).elim id fun heq => heq.trans h
  simp only [startRun, hbefore, Run.run, Run.plan, bind, Except.bind, pure, Except.pure]
  cases Run.ready p.catalog (x.runConfig s.stamp) t with
  | error e => rfl
  | ok steps =>
    dsimp only
    cases Run.planFor steps (some ((p.command.checker s.launch).heldAt t))
      (x.runConfig s.stamp) t <;> rfl

/-- What comes of a run on the command line. -/
inductive Executed (s : Surroundings) (t : Tree) (o : Overrides) : Outcome → Prop where
  /-- It fails after some notes. -/
  | failed (notes : String) (f : Failure) : RunFails s t o → Executed s t o (s.fail t notes f)
  /-- It takes place. -/
  | done {x : Settings} {p : Preparation} {r : Run.Result} : TakesPlace s t o x p r →
      Executed s t o (runOutcome s x p r)

/-- The settings are looked at first, then what the run needs, and then the run itself. -/
theorem executed (s : Surroundings) (t : Tree) (o : Overrides) :
    Executed s t o ((Command.run o).execute s t) := by
  change Executed s t o (withSettings s t o executeRun)
  unfold withSettings
  split
  · next e hx => exact .failed "" (.settings e) (.settings hx)
  · next x hx =>
    unfold executeRun
    rcases prepare_cases (s := s) hx with ⟨f, hp, hfails⟩ | ⟨p, hp, hprepared⟩
    · rw [hp]
      exact .failed (s.missingNote x) f hfails
    · rw [hp]
      dsimp only
      split
      · next e hrun =>
        rw [treeBefore_of_error hrun]
        exact .failed (s.missingNote x ++ s.dryNote x) (.run e) (.run hprepared hrun)
      · next r hrun => exact .done ⟨hprepared, hrun⟩

/-! ## Trees -/

theorem tree_runOutcome (s : Surroundings) (x : Settings) (p : Preparation) (r : Run.Result) :
    (runOutcome s x p r).tree = treeAfter s x p r := by
  simp only [runOutcome]
  split <;> rfl

/-- A dry run does to the tree what the checker does to it. -/
theorem TakesPlace.asChecked_of_dryRun (h : TakesPlace s t o x p r) (hdry : x.dryRun = true) :
    AsChecked s t o (runOutcome s x p r).tree := by
  obtain ⟨plan, hconfig, rfl⟩ := exists_plan_of_startRun h.run
  have hjob : plan.job.config.dryRun = true := by rw [hconfig]; exact hdry
  have hafter : treeAfter s x p (plan.carryOut false (treeBefore s t x p))
      = treeBefore s t x p := by
    simp only [treeAfter, hdry, Bool.not_true, Bool.and_false, Bool.false_and, Bool.false_eq_true,
      if_false]
    exact Run.processAll_tree_of_dryRun hjob _ _
  rw [tree_runOutcome, hafter]
  rcases treeBefore_cases s t x p with heq | heq
  · exact .inl heq
  · exact .inr ⟨x, p.command, h.settings, h.command, heq⟩

/-- A dry run has a report that can be printed. -/
theorem runPrintable_of_dryRun (hx : Settings.resolve t o = .ok x) (hdry : x.dryRun = true) :
    RunPrintable s t o := by
  intro x' p r h _
  cases h.settings.symm.trans hx
  obtain ⟨plan, hconfig, rfl⟩ := exists_plan_of_startRun h.run
  have hjob : plan.job.config.dryRun = true := by rw [hconfig]; exact hdry
  have hperm := Run.backups_carryOut_perm plan false (treeBefore s t x p)
  rw [Run.backups_of_dryRun hjob] at hperm
  exact Stats.printable_of_backups hperm.eq_nil

theorem tree_executeSteps (s : Surroundings) (t : Tree) (o : Overrides) :
    ((Command.steps o).execute s t).tree = t := by
  change (withSettings s t o executeSteps).tree = t
  unfold withSettings executeSteps
  split
  · rfl
  · split <;> rfl

/-- A check does to the tree what the checker does to it. -/
theorem asChecked_executeCheck (s : Surroundings) (t : Tree) (o : Overrides) :
    AsChecked s t o ((Command.check o).execute s t).tree := by
  change AsChecked s t o (withSettings s t o executeCheck).tree
  unfold withSettings executeCheck
  split
  · exact .inl rfl
  · next x hx =>
    split
    · exact .inl rfl
    · next c hc => split <;> exact .inr ⟨x, c, hx, hc, rfl⟩

/-! ## Exit codes -/

theorem isClean_eq_true {v? : Option Verification.Status} :
    isClean v? = true ↔ ∃ v, v? = some (.done v) ∧ v.new = 0 := by
  constructor
  · intro h
    match v?, h with
    | some (.done v), h =>
      simp only [isClean, Bool.and_eq_true, beq_iff_eq] at h
      exact ⟨v, rfl, h.2⟩
  · rintro ⟨v, rfl, hv⟩
    simp [isClean, Verification.success, hv]

/-- A run that takes place is unclean if it is strict, is verified and is not found clean. -/
theorem TakesPlace.unclean_iff (h : TakesPlace s t o x p r) :
    RunUnclean s t o ↔ (x.strict && x.verify && !isClean (verification s x p r)) = true := by
  have hclean : x.verify = true → ((∃ v, Verification.Status.ofRun r.tree
      (some (p.command.checker s.relaunch)) r.baseline x.dryRun = .done v ∧ v.new = 0)
        ↔ isClean (verification s x p r) = true) := by
    intro hverify
    rw [isClean_eq_true, verification, if_pos hverify]
    simp only [Option.some.injEq]
  simp only [Bool.and_eq_true, Bool.not_eq_true', ← Bool.not_eq_true, and_assoc]
  constructor
  · rintro ⟨x', p', r', h', hstrict, hverify, hnot⟩
    obtain ⟨rfl, rfl, rfl⟩ := h.unique h'
    exact ⟨hstrict, hverify, fun hc => hnot ((hclean hverify).2 hc)⟩
  · rintro ⟨hstrict, hverify, hnot⟩
    exact ⟨x, p, r, h, hstrict, hverify, fun hd => hnot ((hclean hverify).1 hd)⟩

/-- A run that takes place does not have the exit code of a failure. -/
theorem exit_runOutcome_ne (s : Surroundings) (x : Settings) (p : Preparation) (r : Run.Result) :
    (runOutcome s x p r).exit ≠ 2 := by
  simp only [runOutcome, exitOf, brokenOff]
  repeat' split
  all_goals simp

theorem TakesPlace.exit_eq (h : TakesPlace s t o x p r) (hprintable : RunPrintable s t o) :
    (runOutcome s x p r).exit = exitOf s x p r := by
  have hprinted : (s.report? x (reportOf s x p r)).isSome = true := by
    unfold Surroundings.report?
    split
    · next hjson =>
      rw [Option.isSome_map, Report.isSome_toJson?_iff]
      exact hprintable x p r h (beq_iff_eq.1 hjson)
    · rfl
  obtain ⟨text, htext⟩ := Option.isSome_iff_exists.1 hprinted
  simp only [runOutcome, htext]

/-- A run whose report can be printed has the exit code one if it is unclean. -/
theorem TakesPlace.exit_of_unclean (h : TakesPlace s t o x p r) (hprintable : RunPrintable s t o)
    (hu : RunUnclean s t o) : (runOutcome s x p r).exit = 1 :=
  (h.exit_eq hprintable).trans (if_pos (h.unclean_iff.1 hu))

/-- Otherwise it has the exit code zero. -/
theorem TakesPlace.exit_of_not_unclean (h : TakesPlace s t o x p r)
    (hprintable : RunPrintable s t o) (hu : ¬RunUnclean s t o) : (runOutcome s x p r).exit = 0 :=
  (h.exit_eq hprintable).trans (if_neg fun hc => hu (h.unclean_iff.2 hc))

/-- A run that fails is not unclean. -/
theorem RunFails.not_unclean (h : RunFails s t o) : ¬RunUnclean s t o := by
  rintro ⟨x, p, r, hplace, -⟩
  exact hplace.not_fails h

/-- A project with a command for its checker. -/
def checkedTree : Tree :=
  Tree.empty.put ["tsmend.toml"] (.file "[checker]\ncommand = ['sh', '-c', 'echo x > f']\n".toUTF8)

/-- A program that writes a line into a file, as this command does. -/
def writing : Launcher := fun t _ _ _ _ =>
  .ok (.ended ⟨some 0, [], []⟩, t.put ["f"] (.file "x\n".toUTF8))

end Cli
end SourceMend
