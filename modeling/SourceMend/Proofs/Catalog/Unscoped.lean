import SourceMend.Proofs.Catalog.Validity

/-!
# Catalogs without scoped rules

The scoped rules of a catalog can be deleted.  Its steps stay, with their names
and priorities, so the result is a catalog again (`ofSteps_unscoped`), and what
can be selected from it is what could be selected before (`select_unscoped`).
A step without its scoped rules does what the step does on a file without
outstanding codes (`apply_unscoped`).
-/

namespace SourceMend

/-! ## Steps -/

namespace Rule

variable {r : Rule}

theorem acceptsCodes_none (r : Rule) : r.acceptsCodes none = !r.isScoped := by
  simp [acceptsCodes]

theorem acceptsCodes_of_unscoped (h : r.isScoped = false) (codes : Option (List String)) :
    r.acceptsCodes codes = true := by
  simp [acceptsCodes, h]

end Rule

namespace Step

/-- The step without its scoped rules. -/
def unscoped (s : Step) : Step := { s with rules := s.rules.filter fun r => !r.isScoped }

@[simp] theorem name_unscoped (s : Step) : s.unscoped.name = s.name := rfl

@[simp] theorem priority_unscoped (s : Step) : s.unscoped.priority = s.priority := rfl

/-- Without outstanding codes the scoped rules of a step do nothing. -/
theorem apply_unscoped {on on' : Subject} (hrel : on'.rel = on.rel) (hfull : on'.full = on.full)
    (hnone : on.codes = none) (s : Step) (text : Text) :
    s.unscoped.apply on' text = s.apply on text := by
  have hfold (rules : List Rule) (so : StepResult) :
      (rules.filter fun r => !r.isScoped).foldl (applyRule on') so
        = rules.foldl (applyRule on) so := by
    induction rules generalizing so with
    | nil => rfl
    | cons r rules ih =>
      rw [List.foldl_cons]
      cases hr : r.isScoped with
      | true =>
        have hso : applyRule on so r = so := by
          simp [applyRule, hnone, Rule.acceptsCodes_none, hr]
        rw [List.filter_cons_of_neg (by simp [hr]), hso]
        exact ih so
      | false =>
        have hsame : applyRule on' so r = applyRule on so r := by
          simp only [applyRule, hrel, hfull, Rule.acceptsCodes_of_unscoped hr]
        rw [List.filter_cons_of_pos (by simp [hr]), List.foldl_cons, hsame]
        exact ih _
  exact hfold s.rules _

end Step

namespace Catalog

variable {c : Catalog} {steps : List Step}

/-- The catalog without its scoped rules. -/
def unscoped (c : Catalog) : Catalog := ⟨c.steps.map Step.unscoped⟩

/-! ## Validity -/

theorem Valid.unscoped (h : Valid steps) : Valid (steps.map Step.unscoped) where
  named := List.forall_mem_map.2 h.named
  ruleNamed := List.forall_mem_map.2 fun s hs r hr => h.ruleNamed s hs r (List.mem_filter.1 hr).1
  names := by
    rw [List.map_map]
    exact h.names
  ruleNames := by
    rw [List.flatMap_map]
    exact h.ruleNames.sublist
      ((List.Sublist.flatMap_right steps fun _ _ => List.filter_sublist).map Rule.name)
  priorities := by
    rw [List.map_map]
    exact h.priorities

theorem byPriority_unscoped (steps : List Step) :
    byPriority (steps.map Step.unscoped) = (byPriority steps).map Step.unscoped :=
  (List.map_mergeSort (f := Step.unscoped) fun _ _ _ _ => rfl).symm

/-- Deleting the scoped rules from the steps of a catalog gives a catalog. -/
theorem ofSteps_unscoped (h : ofSteps steps = .ok c) :
    ofSteps (steps.map Step.unscoped) = .ok c.unscoped := by
  obtain ⟨hvalid, hsteps⟩ := ofSteps_eq_ok_iff.1 h
  refine ofSteps_eq_ok_iff.2 ⟨hvalid.unscoped, ?_⟩
  rw [unscoped, hsteps, byPriority_unscoped]

/-! ## Selection -/

/-- The same priorities can be selected, and give the same steps without their scoped rules. -/
theorem select_unscoped (c : Catalog) (ids? : Option (List Nat)) :
    c.unscoped.select ids? = (c.select ids?).map (List.map Step.unscoped) := by
  cases ids? with
  | none => rfl
  | some ids =>
    have hany (id : Nat) : (c.unscoped.steps.any fun s => s.priority == id)
        = c.steps.any fun s => s.priority == id := by
      rw [unscoped, List.any_map]
      rfl
    have hfilter : (c.unscoped.steps.filter fun s => ids.contains s.priority)
        = (c.steps.filter fun s => ids.contains s.priority).map Step.unscoped := by
      rw [unscoped, List.filter_map]
      rfl
    simp only [select, hany, hfilter]
    split <;> rfl

end Catalog
end SourceMend
