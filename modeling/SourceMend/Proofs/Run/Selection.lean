import SourceMend.Proofs.Catalog.Selection
import SourceMend.Proofs.Run.Checker

/-!
# Runs of selected steps

A run looks at its catalog once, to select the steps that run.  The selected steps are a
catalog themselves, so a run of them is a run of all steps of that catalog
(`run_of_select`).  This includes the diagnostics: they are collected if a selected step
needs them, whatever the other steps of the catalog need.
-/

namespace SourceMend.Run

variable {given sel : List Step} {catalog : Catalog} {config : RunConfig}

/-! ## The steps of a plan -/

/-- A plan whose settings name these steps. -/
def Plan.withSteps (p : Plan) (ids? : Option (List Nat)) : Plan :=
  { p with job.config.steps := ids? }

/-- A plan depends on a catalog and its settings only through the steps that are selected. -/
theorem plan_of_select (hselect : catalog.select config.steps = .ok sel)
    (checker? : Option Checker) (t : Tree) :
    plan catalog checker? config t = (plan ⟨sel⟩ checker? { config with steps := none } t).map
      fun p => p.withSteps config.steps := by
  have hknown : knownBefore t checker? { config with steps := none } sel
      = knownBefore t checker? config sel := rfl
  cases htarget : t.has config.target with
  | false =>
    rw [plan_of_not_ready (by rw [ready_eq, htarget]; rfl),
      plan_of_not_ready (by rw [ready_eq, htarget]; rfl)]
    rfl
  | true =>
    have hall : ready ⟨sel⟩ { config with steps := none } t = .ok sel :=
      ready_eq_ok_iff.mpr ⟨htarget, rfl⟩
    rw [plan_of_ready (ready_eq_ok_iff.mpr ⟨htarget, hselect⟩), plan_of_ready hall, planFor_eq,
      planFor_eq, hknown]
    cases knownBefore t checker? config sel <;> rfl

/-- A job does not depend on how its steps were selected. -/
theorem agree_withSteps (p : Plan) (ids? : Option (List Nat)) (t : Tree) (ps : List Path) :
    (p.withSteps ids?).job.Agree t ps p.job :=
  ⟨rfl, rfl, rfl, rfl, rfl, fun _ _ _ _ => .rfl⟩

/-! ## The steps of a run -/

/-- A run of selected steps is a run of all steps of the catalog that they are. -/
theorem run_of_select (hselect : catalog.select config.steps = .ok sel)
    (checker? : Option Checker) (cancelled : Bool) (t : Tree) :
    run catalog checker? config cancelled t
      = run ⟨sel⟩ checker? { config with steps := none } cancelled t := by
  rw [run, run, plan_of_select hselect]
  cases hplan : plan ⟨sel⟩ checker? { config with steps := none } t with
  | error e => rfl
  | ok p =>
    have hdistinct : t.DistinctFiles p.files := distinctFiles_of_plan hplan false
    have heffect : ((p.withSteps config.steps).carryOut cancelled t).effect
        = (p.carryOut cancelled t).effect :=
      effect_carryOut_agree rfl (agree_withSteps p config.steps t p.files) hdistinct
    exact congrArg Except.ok (Result.eq_of_effect heffect rfl)

/-- Priorities of a catalog are selected exactly if each of them is the priority of a step.  The
selected steps are then those that have them, in their order, and otherwise the unknown priorities
are listed.  How the priorities are arranged and repeated does not matter.  A run of the selected
steps is a run of the catalog that has no other steps. -/
theorem run_selection (h : Catalog.ofSteps given = .ok catalog) (ids : List Nat) :
    ((∃ sel, catalog.select (some ids) = .ok sel)
        ↔ ∀ id ∈ ids, ∃ s ∈ catalog.steps, s.priority = id)
      ∧ (∀ sel, catalog.select (some ids) = .ok sel ↔ Catalog.Selection catalog ids sel)
      ∧ (∀ e, catalog.select (some ids) = .error e
        ↔ ∃ unknown, e = .unknownSteps unknown ∧ Catalog.Unknown catalog ids unknown)
      ∧ (∀ ids', (∀ id, id ∈ ids' ↔ id ∈ ids) →
        catalog.select (some ids') = catalog.select (some ids))
      ∧ ∀ sel, catalog.select (some ids) = .ok sel → Catalog.ofSteps sel = .ok ⟨sel⟩
        ∧ ∀ (checker? : Option Checker) (config : RunConfig) (cancelled : Bool) (t : Tree),
          run catalog checker? { config with steps := some ids } cancelled t
            = run ⟨sel⟩ checker? { config with steps := none } cancelled t := by
  have hascending := Catalog.ascending_of_ofSteps h
  refine ⟨?_, fun sel => Catalog.select_eq_ok_iff_selection hascending,
    fun e => Catalog.select_eq_error_iff, fun ids' => Catalog.select_congr, fun sel hselect => ?_⟩
  · constructor
    · rintro ⟨sel, hselect⟩
      exact (Catalog.select_eq_ok_iff.1 hselect).1
    · exact fun hknown => ⟨_, Catalog.select_eq_ok_iff.2 ⟨hknown, rfl⟩⟩
  · refine ⟨Catalog.ofSteps_of_select h hselect, fun checker? config cancelled t => ?_⟩
    have hconfig : catalog.select ({ config with steps := some ids } : RunConfig).steps = .ok sel :=
      hselect
    exact run_of_select hconfig checker? cancelled t

/-- One of two steps is selected, though it is named twice, and two unknown priorities are listed
once each. -/
theorem run_selection_late :
    let catalog : Catalog := ⟨[Catalog.early, Catalog.late]⟩
    let config : RunConfig := { target := ⟨"."⟩ }
    let t := Tree.empty.put ["a.ts"] (.file "x".toUTF8)
    Catalog.ofSteps [Catalog.late, Catalog.early] = .ok catalog
      ∧ catalog.select (some [9, 9]) = .ok [Catalog.late]
      ∧ catalog.select (some [1, 7, 3, 7]) = .error (.unknownSteps [3, 7])
      ∧ run catalog none { config with steps := some [9, 9] } false t
        = run ⟨[Catalog.late]⟩ none config false t
      ∧ (run ⟨[Catalog.late]⟩ none config false t).toOption.map (fun r => r.stats.byStep.entries)
        = some [("late", 1)] := by
  intro catalog config t
  have hcatalog : Catalog.ofSteps [Catalog.late, Catalog.early] = .ok catalog :=
    Catalog.ofSteps_eq_ok_iff_perm.2
      ⟨⟨by decide, by decide, by decide, by decide, by decide⟩, .swap .., by decide⟩
  have hlate : Catalog.Selection catalog [9, 9] [Catalog.late] :=
    ⟨.cons _ (.refl _), by decide, fun id => by simp [Catalog.late]⟩
  have hunknown : Catalog.Unknown catalog [1, 7, 3, 7] [3, 7] := by
    refine ⟨by decide, by decide, fun id => ?_⟩
    have hsteps : (∀ s ∈ catalog.steps, s.priority ≠ id) ↔ 1 ≠ id ∧ 9 ≠ id := by
      simp [catalog, Catalog.early, Catalog.late]
    rw [hsteps]
    simp only [List.mem_cons, List.not_mem_nil, or_false]
    omega
  obtain ⟨-, hok, -, -, hruns⟩ := run_selection hcatalog [9, 9]
  obtain ⟨-, -, herror, -, -⟩ := run_selection hcatalog [1, 7, 3, 7]
  have hselect := (hok [Catalog.late]).2 hlate
  exact ⟨hcatalog, hselect, (herror _).2 ⟨[3, 7], rfl, hunknown⟩,
    (hruns _ hselect).2 none config false t, by decide +kernel⟩

end SourceMend.Run
