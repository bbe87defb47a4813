import SourceMend.Proofs.Step
import SourceMend.Run

/-!
# What the selected steps come to

The fixes of a file are counted alike by rule and by step, and a file without a
fix keeps its text (`counted_mend`).  What the steps come to depends on the
outstanding codes that their rules mention, and on no others (`mend_congr`).
-/

namespace SourceMend.Run

variable {on on' : Subject} {s : Step} {steps : List Step} {a b : Option (List String)}

/-! ## Fixes -/

/-- The fixes by rule and by step have the same sum, and without a fix the text is as before. -/
structure Progress.Counted (p : Progress) : Prop where
  /-- Both ways of counting agree. -/
  total : p.outcome.byStep.total = p.outcome.byRule.total
  /-- Without a fix the text is unchanged. -/
  text : p.outcome.byRule.total = 0 → p.outcome.text = p.outcome.before

theorem Progress.Counted.advance {p : Progress} (h : p.Counted) : (advance on p s).Counted := by
  unfold Run.advance
  split
  · exact h
  · constructor
    · simp [StepResult.total, h.total]
    · intro hzero
      simp only [Counts.total_merge, Nat.add_eq_zero_iff] at hzero
      exact (Step.text_eq_of_total_eq_zero hzero.2).trans (h.text hzero.1)

theorem counted_mend (steps : List Step) (on : Subject) (text : Text) :
    (mend steps on text).Counted :=
  List.foldlRecOn steps (advance on) ⟨rfl, fun _ => rfl⟩ fun _ hp _ _ => hp.advance

/-- A changed file has a fix. -/
theorem Progress.Counted.pos {p : Progress} (h : p.Counted) (hm : p.outcome.modified = true) :
    0 < p.outcome.fixes := by
  refine Nat.pos_of_ne_zero fun hzero => ?_
  simp [Outcome.modified, h.text hzero] at hm

/-! ## Codes -/

theorem skips_congr (h : Codes.Agree s.mentioned a b) : skips s a = skips s b := by
  have hany : (s.rules.any fun r => r.acceptsCodes a) = s.rules.any fun r => r.acceptsCodes b := by
    rw [Bool.eq_iff_iff]
    simp only [List.any_eq_true]
    refine exists_congr fun r => and_congr_right fun hr => ?_
    rw [Rule.acceptsCodes_congr (h.mono (Step.codes_subset_mentioned hr))]
  simp only [skips, hany]

theorem advance_congr (h : Subject.Agree s.mentioned on on') (p : Progress) :
    advance on p s = advance on' p s := by
  simp only [advance, skips_congr h.codes, Step.apply_congr h]

/-- What the steps come to depends on the mentioned codes only. -/
theorem mend_congr (h : Subject.Agree (Step.mentionedBy steps) on on') (text : Text) :
    mend steps on text = mend steps on' text := by
  have hfold (rest : List Step) (hrest : ∀ s ∈ rest, s ∈ steps) (p : Progress) :
      rest.foldl (advance on) p = rest.foldl (advance on') p := by
    induction rest generalizing p with
    | nil => rfl
    | cons s rest ih =>
      obtain ⟨hs, hrest⟩ := List.forall_mem_cons.1 hrest
      have hsub : s.mentioned ⊆ Step.mentionedBy steps := fun _ hc => List.mem_flatMap.2 ⟨s, hs, hc⟩
      rw [List.foldl_cons, List.foldl_cons, advance_congr (h.mono hsub), ih hrest]
  exact hfold steps (fun _ hs => hs) _

end SourceMend.Run
