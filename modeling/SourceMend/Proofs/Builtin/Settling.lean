import SourceMend.Proofs.Builtin.Idempotence

/-!
# Steps that settle at once

Each of the built-in steps after the first, taken by itself, leaves a text on which it
changes nothing.  That the steps settle together is not enough for this, since a text that
one of them leaves may have whatever the others look for.
-/

namespace SourceMend.Catalog.Builtin

open Rule

variable {step : Step} {cs : List Check} {on : Subject} {s : Text}

/-- A step whose rules are some of the later ones, and have no match where there is nothing that they
look for, changes nothing in what it leaves. -/
theorem untouched_again (hcs : cs.Sublist laterChecks) (hrules : cs.map Check.rule = step.rules)
    (hsettled : ∀ {s}, (∀ c ∈ cs, c.rule.accepts on = true → c.Passed s) →
      ∀ r ∈ step.rules, r.accepts on = true → r.Settled s) :
    Step.Untouched ⟨(step.apply on s).text, ∅, []⟩ (step.apply on (step.apply on s).text) := by
  have hsub : cs.Sublist (checks fun _ => False) :=
    hcs.trans (List.drop_sublist 3 (checks fun _ => False))
  refine Step.apply_of_settled (fun r hr => ?_) (hsettled (passed_apply hsub hrules on s))
  rw [← hrules] at hr
  obtain ⟨c, hc, rfl⟩ := List.mem_map.1 hr
  exact regular_checks _ c (hsub.subset hc)

/-- The later steps one by one. -/
theorem untouched_later : ∀ step ∈ laterSteps, ∀ (on : Subject) (s : Text),
    Step.Untouched ⟨(step.apply on s).text, ∅, []⟩ (step.apply on (step.apply on s).text) := by
  have hpromises : (laterChecks.take 2).Sublist laterChecks := List.take_sublist 2 laterChecks
  have hassertions : ((laterChecks.drop 2).take 3).Sublist laterChecks :=
    (List.take_sublist 3 _).trans (List.drop_sublist 2 laterChecks)
  have hmissing : (laterChecks.drop 5).Sublist laterChecks := List.drop_sublist 5 laterChecks
  exact List.forall_mem_cons.2 ⟨fun on s => untouched_again hpromises rfl settled_promisePatterns,
    List.forall_mem_cons.2 ⟨fun on s => untouched_again hassertions rfl settled_typeAssertions,
      List.forall_mem_singleton.2 fun on s => untouched_again hmissing rfl settled_missingTypes⟩⟩

/-- Of the built-in steps, all but the first report no fix on what they leave themselves, and return
it unchanged.  None of them reports a failure. -/
theorem later_steps_settle : ∃ c, builtin = .ok c
    ∧ c.steps.map Step.name
      = ["Basic Syntax", "Promise Patterns", "Type Assertions", "Missing Types"]
    ∧ ∀ step ∈ c.steps.tail, ∀ (on : Subject) (s : Text),
      (step.apply on (step.apply on s).text).text = (step.apply on s).text
        ∧ (step.apply on (step.apply on s).text).total = 0
        ∧ (∀ k, (step.apply on (step.apply on s).text).counts.get k = 0)
        ∧ (step.apply on s).failures = [] := by
  refine ⟨⟨steps⟩, builtin_eq, rfl, fun step hstep on s => ?_⟩
  have huntouched := untouched_later step hstep on s
  exact ⟨huntouched.text, huntouched.total, huntouched.count,
    Step.failures_apply (regular_steps step (List.mem_of_mem_tail hstep)) on s⟩

end SourceMend.Catalog.Builtin
