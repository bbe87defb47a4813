import SourceMend.Proofs.Catalog.Selection
import SourceMend.Proofs.Run.Accounting
import SourceMend.Proofs.Run.Checker
import SourceMend.Proofs.Step.Failure

/-!
# Fixes by step and by rule

The fixes of a run are counted by name, once for a step and once for a rule.
Names tell valid steps and their rules apart, so every step has the fixes of its
own rules and no other name has any (`BrokenDown`).  A step on a file keeps this
(`BrokenDown.credit`), and so does adding up (`BrokenDown.merge`).  Hence it holds
of the statistics of a run and the steps that were selected for it
(`brokenDown_of_run`).
-/

namespace SourceMend

variable {steps : List Step} {s : Step} {c c' d d' : Counts} {on : Subject} {text : Text}
  {k : String}

/-! ## One step -/

/-- A step counts for its own rules only. -/
theorem Step.get_apply_of_not_mem (h : k ∉ s.rules.map Rule.name) :
    (s.apply on text).counts.get k = 0 := by
  rw [Counts.get, Step.apply, Step.get?_foldl_of_not_mem h]
  rfl

/-- The fixes of a step are those of its rules, and no other name has fixes. -/
structure BrokenDown (steps : List Step) (byStep byRule : Counts) : Prop where
  /-- A step has the fixes of its rules. -/
  step : ∀ s ∈ steps, byRule.sumOf (s.rules.map Rule.name) = byStep.get s.name
  /-- Only the steps have fixes. -/
  only : ∀ k, k ∉ steps.map Step.name → byStep.get k = 0

namespace BrokenDown

theorem empty (steps : List Step) : BrokenDown steps ∅ ∅ where
  step _ _ := Counts.sumOf_eq_zero fun _ _ => rfl
  only _ _ := rfl

theorem merge (h : BrokenDown steps c d) (h' : BrokenDown steps c' d') :
    BrokenDown steps (c.merge c') (d.merge d') where
  step s hs := by rw [Counts.sumOf_merge, h.step s hs, h'.step s hs, Counts.get_merge]
  only k hk := by rw [Counts.get_merge, h.only k hk, h'.only k hk]

/-- What a step does to a file is counted for that step and its rules. -/
theorem credit (h : BrokenDown steps c d) (hvalid : Catalog.Valid steps) (hs : s ∈ steps)
    (on : Subject) (text : Text) :
    BrokenDown steps (c.add s.name (s.apply on text).total)
      (d.merge (s.apply on text).counts) where
  step s' hs' := by
    rw [Counts.sumOf_merge, h.step s' hs', Counts.get_add]
    by_cases hsame : s' = s
    · subst hsame
      have hown : (s'.apply on text).counts.sumOf (s'.rules.map Rule.name)
          = (s'.apply on text).total :=
        Counts.sumOf_eq_total (hvalid.nodup_rules hs') fun _ => Step.get_apply_of_not_mem
      rw [if_pos rfl, hown]
    · have hother : (s.apply on text).counts.sumOf (s'.rules.map Rule.name) = 0 :=
        Counts.sumOf_eq_zero fun k hk => Step.get_apply_of_not_mem fun hk' =>
          hsame (hvalid.eq_of_ruleName hs' hs hk hk')
      rw [if_neg fun hname => hsame (hvalid.eq_of_name hs' hs hname), hother, Nat.add_zero]
  only k hk := by
    have hne : k ≠ s.name := by
      rintro rfl
      exact hk (List.mem_map_of_mem hs)
    rw [Counts.get_add, if_neg hne, h.only k hk]

theorem total (h : BrokenDown steps c d) (hvalid : Catalog.Valid steps) :
    c.sumOf (steps.map Step.name) = c.total :=
  Counts.sumOf_eq_total hvalid.names h.only

end BrokenDown

/-! ## One file -/

namespace Run

variable {job : Job} {t : Tree} {p : Path} {x : Stats × Tree}

theorem brokenDown_mend (hvalid : Catalog.Valid steps) (on : Subject) (text : Text) :
    BrokenDown steps (mend steps on text).outcome.byStep (mend steps on text).outcome.byRule := by
  let P (p : Progress) : Prop := BrokenDown steps p.outcome.byStep p.outcome.byRule
  have hadvance (p : Progress) (hp : P p) (s : Step) (hs : s ∈ steps) : P (advance on p s) := by
    unfold advance
    split
    · exact hp
    · exact hp.credit hvalid hs on p.outcome.text
  exact List.foldlRecOn (motive := P) steps (advance on) (.empty steps) hadvance

theorem Processed.brokenDown (h : Processed job t p x) (hvalid : Catalog.Valid job.steps) :
    BrokenDown job.steps x.1.byStep x.1.byRule := by
  have hexamined {bytes : ByteArray} {progress : Progress}
      (hok : examine job t p = .ok (bytes, progress)) :
      BrokenDown job.steps progress.outcome.byStep progress.outcome.byRule := by
    obtain ⟨-, before, -, rfl⟩ := examine_eq_ok hok
    exact brokenDown_mend hvalid _ before.toList
  cases h with
  | unreadable => exact .empty job.steps
  | unchanged hok => exact hexamined hok
  | previewed hok =>
    unfold Run.previewed
    split
    · exact hexamined hok
    · exact hexamined hok
  | notCopied => exact .empty job.steps
  | replaced hok => exact hexamined hok

/-! ## Whole runs -/

theorem brokenDown_processAll (hvalid : Catalog.Valid job.steps) (t : Tree) (ps : List Path) :
    BrokenDown job.steps (processAll job t ps).1.byStep (processAll job t ps).1.byRule := by
  induction ps generalizing t with
  | nil => exact .empty job.steps
  | cons p ps ih => exact ((processed job t p).brokenDown hvalid).merge (ih (processFile job t p).2)

variable {given : List Step} {catalog : Catalog} {checker? : Option Checker} {config : RunConfig}
  {cancelled : Bool} {r : Result}

/-- The statistics of a run break down by the steps that are selected for it. -/
theorem brokenDown_of_run (hcatalog : Catalog.ofSteps given = .ok catalog)
    (h : run catalog checker? config cancelled t = .ok r) :
    ∃ steps, catalog.select config.steps = .ok steps ∧ Catalog.Valid steps
      ∧ BrokenDown steps r.stats.byStep r.stats.byRule ∧ r.stats.byStep.total = r.stats.fixes := by
  obtain ⟨plan, hplan, rfl⟩ := run_eq_ok h
  obtain ⟨hselect, -, -⟩ := plan_job hplan
  have hvalid := (Catalog.valid_of_ofSteps hcatalog).sublist (Catalog.sublist_of_select hselect)
  obtain ⟨note, hnote⟩ := noteCancelled_eq cancelled plan.files.length
    (processAll plan.job t (plan.processed cancelled)).1.normalize
  have hstats : (plan.carryOut cancelled t).stats
      = { (processAll plan.job t (plan.processed cancelled)).1.normalize with cancelled := note } :=
    hnote
  rw [hstats]
  exact ⟨plan.job.steps, hselect, hvalid, brokenDown_processAll hvalid t _,
    (accounted_processAll plan.job t (plan.processed cancelled)).byStep⟩

end Run

end SourceMend
