import SourceMend.Proofs.Counts
import SourceMend.Step

/-!
# What a step sees and what it counts

A step that counts no fix leaves the text as it was (`text_eq_of_total_eq_zero`).
Of the outstanding codes of a file it sees only whether those that its rules
mention are among them, so views of a file that agree on these (`Subject.Agree`)
come to the same (`apply_congr`).
-/

namespace SourceMend

/-! ## Fixes -/

namespace Rule

variable {r : Rule} {s out : Text} {fixes : Nat}

/-- Without a fix a rule gives back the text. -/
theorem eq_of_apply_eq_zero (h : r.apply s = .ok (out, fixes)) (hfixes : fixes = 0) : out = s := by
  simp only [apply, bind, Except.bind, pure, Except.pure] at h
  split at h
  · cases h
  · split at h
    · cases h
      rfl
    · next hne =>
      cases h
      exact absurd hfixes hne

end Rule

namespace Step

variable {on : Subject} {so : StepResult} {r : Rule} {text : Text}

/-- What holds between a text and what has come of a step on it: without a fix it is unchanged. -/
def Counted (text : Text) (so : StepResult) : Prop := so.total = 0 → so.text = text

theorem Counted.applyRule (h : Counted text so) : Counted text (applyRule on so r) := by
  intro hzero
  unfold Step.applyRule at hzero ⊢
  split
  · next haccepts =>
    rw [if_pos haccepts] at hzero
    split
    · next out fixes hok =>
      simp only [hok, StepResult.total, Counts.total_add, Nat.add_eq_zero_iff] at hzero
      rw [Rule.eq_of_apply_eq_zero hok hzero.2, h hzero.1]
    · next f herr =>
      simp only [herr, StepResult.total, Counts.total_add, Nat.add_zero] at hzero
      exact h hzero
  · next hrefuses =>
    rw [if_neg hrefuses] at hzero
    exact h hzero

/-- A step without fixes leaves the text as it was. -/
theorem text_eq_of_total_eq_zero {s : Step} (h : (s.apply on text).total = 0) :
    (s.apply on text).text = text := by
  have hcounted : Counted text (s.apply on text) :=
    List.foldlRecOn s.rules (Step.applyRule on) (fun _ => rfl) fun _ hso _ _ => hso.applyRule
  exact hcounted h

end Step

/-! ## Codes -/

/-- Whether some outstanding codes, if any were collected, hold the same of the `mentioned` codes as
others. -/
def Codes.Agree (mentioned : List String) (a b : Option (List String)) : Prop :=
  ∀ c ∈ mentioned, c ∈ a.getD [] ↔ c ∈ b.getD []

/-- The codes that the rules of a step mention. -/
def Step.mentioned (s : Step) : List String := s.rules.flatMap Rule.codes

/-- The codes that the rules of some steps mention. -/
def Step.mentionedBy (steps : List Step) : List String := steps.flatMap Step.mentioned

variable {a b : Option (List String)} {m n : List String}

theorem Codes.Agree.mono (h : Codes.Agree m a b) (hsub : n ⊆ m) : Codes.Agree n a b :=
  fun c hc => h c (hsub hc)

theorem Rule.acceptsCodes_congr {r : Rule} (h : Codes.Agree r.codes a b) :
    r.acceptsCodes a = r.acceptsCodes b := by
  have hany : (a.getD []).any r.codes.contains = (b.getD []).any r.codes.contains := by
    rw [Bool.eq_iff_iff]
    simp only [List.any_eq_true, List.contains_iff_mem]
    exact ⟨fun ⟨c, hc, hmem⟩ => ⟨c, (h c hmem).1 hc, hmem⟩,
      fun ⟨c, hc, hmem⟩ => ⟨c, (h c hmem).2 hc, hmem⟩⟩
  simp only [Rule.acceptsCodes, hany]

variable {on on' : Subject}

/-- Two views of a file that differ at most in codes that are not mentioned. -/
structure Subject.Agree (mentioned : List String) (on on' : Subject) : Prop where
  /-- The path from the target is the same. -/
  rel : on.rel = on'.rel
  /-- The path is the same. -/
  full : on.full = on'.full
  /-- The mentioned codes are outstanding in both or in neither. -/
  codes : Codes.Agree mentioned on.codes on'.codes

theorem Subject.Agree.mono (h : Subject.Agree m on on') (hsub : n ⊆ m) : Subject.Agree n on on' :=
  ⟨h.rel, h.full, h.codes.mono hsub⟩

namespace Step

variable {s : Step}

theorem codes_subset_mentioned {r : Rule} (hr : r ∈ s.rules) : r.codes ⊆ s.mentioned :=
  fun _ hc => List.mem_flatMap.2 ⟨r, hr, hc⟩

theorem applyRule_congr {r : Rule} (h : Subject.Agree r.codes on on') (so : StepResult) :
    applyRule on so r = applyRule on' so r := by
  simp only [applyRule, h.rel, h.full, Rule.acceptsCodes_congr h.codes]

theorem apply_congr (h : Subject.Agree s.mentioned on on') (text : Text) :
    s.apply on text = s.apply on' text := by
  have hfold (rules : List Rule) (hrules : ∀ r ∈ rules, r ∈ s.rules) (so : StepResult) :
      rules.foldl (applyRule on) so = rules.foldl (applyRule on') so := by
    induction rules generalizing so with
    | nil => rfl
    | cons r rules ih =>
      obtain ⟨hr, hrules⟩ := List.forall_mem_cons.1 hrules
      rw [List.foldl_cons, List.foldl_cons,
        applyRule_congr (h.mono (codes_subset_mentioned hr)), ih hrules]
  exact hfold s.rules (fun _ hr => hr) _

end Step

end SourceMend
