import SourceMend.Proofs.Counts
import SourceMend.Proofs.Rule.Sequence

/-!
# Passes

A pass runs some steps one after another.  Its text is that of their rules one after another, and a
pass on a text in which no rule has a match changes nothing.
-/

namespace SourceMend.Step

variable {on : Subject} {s : Text} {so : StepResult} {steps : List Step}

/-- The text after a pass. -/
def textAfter (on : Subject) (steps : List Step) (s : Text) : Text :=
  steps.foldl (fun s step => (step.apply on s).text) s

/-- What comes of each step of a pass, with the text that the step was given. -/
def pass (on : Subject) : List Step → Text → List (Text × StepResult)
  | [], _ => []
  | step :: steps, s => (s, step.apply on s) :: pass on steps (step.apply on s).text

/-- Whether every step of a pass reports no fix and returns its text. -/
def Idle (results : List (Text × StepResult)) : Prop := ∀ x ∈ results, x.2.total = 0 ∧ x.2.text = x.1

instance (results : List (Text × StepResult)) : Decidable (Idle results) :=
  inferInstanceAs (Decidable (∀ x ∈ results, x.2.total = 0 ∧ x.2.text = x.1))

theorem text_applyRule (on : Subject) (so : StepResult) (r : Rule) :
    (applyRule on so r).text = r.next on so.text := by
  unfold applyRule Rule.next Rule.accepts
  split
  · cases r.apply so.text <;> rfl
  · rfl

theorem text_foldl (rules : List Rule) :
    (rules.foldl (applyRule on) so).text = rules.foldl (Rule.next on) so.text := by
  induction rules generalizing so with
  | nil => rfl
  | cons r rules ih => rw [List.foldl_cons, List.foldl_cons, ih, text_applyRule]

theorem textAfter_eq : textAfter on steps s = (steps.flatMap Step.rules).foldl (Rule.next on) s := by
  induction steps generalizing s with
  | nil => rfl
  | cons step steps ih =>
    have hstep : (step.apply on s).text = step.rules.foldl (Rule.next on) s := text_foldl _
    rw [List.flatMap_cons, List.foldl_append, ← hstep]
    exact ih

/-- That a result has the text and the numbers of another one. -/
structure Untouched (so so' : StepResult) : Prop where
  text : so'.text = so.text
  total : so'.total = so.total
  count : ∀ k, so'.counts.get k = so.counts.get k

theorem Untouched.trans {so so' so'' : StepResult} (h : Untouched so so') (h' : Untouched so' so'') :
    Untouched so so'' :=
  ⟨h'.text.trans h.text, h'.total.trans h.total, fun k => (h'.count k).trans (h.count k)⟩

/-- A rule that matches nowhere, or is not for the file, changes nothing. -/
theorem untouched_of_settled (on : Subject) {r : Rule} (hr : r.Regular)
    (h : r.accepts on = true → r.Settled so.text) : Untouched so (applyRule on so r) := by
  unfold applyRule
  split
  next haccepts =>
    rw [hr.apply_of_settled (h haccepts)]
    refine ⟨rfl, by simp [StepResult.total], fun k => ?_⟩
    rw [Counts.get_add]
    split
    next hk => rw [hk, Nat.add_zero]
    next => rfl
  next => exact ⟨rfl, rfl, fun _ => rfl⟩

/-- A rule counts under its own name only. -/
theorem get?_applyRule {k : String} {r : Rule} (h : k ≠ r.name) :
    (applyRule on so r).counts.get? k = so.counts.get? k := by
  unfold applyRule
  split
  · cases r.apply so.text with
    | error f => rw [Counts.get?_add, if_neg h]
    | ok e => rw [Counts.get?_add, if_neg h]
  · rfl

theorem count_applyRule (on : Subject) {k : String} {r : Rule} (h : k ≠ r.name) :
    (applyRule on so r).counts.get k = so.counts.get k :=
  congrArg (Option.getD · 0) (get?_applyRule h)

theorem apply_of_settled {step : Step} (hrules : ∀ r ∈ step.rules, r.Regular)
    (h : ∀ r ∈ step.rules, r.accepts on = true → r.Settled s) :
    Untouched ⟨s, ∅, []⟩ (step.apply on s) := by
  have hfold (rules : List Rule) (hrules : ∀ r ∈ rules, r.Regular)
      (h : ∀ r ∈ rules, r.accepts on = true → r.Settled s) (so : StepResult) (hso : so.text = s) :
      Untouched so (rules.foldl (applyRule on) so) := by
    induction rules generalizing so with
    | nil => exact ⟨rfl, rfl, fun _ => rfl⟩
    | cons r rules ih =>
      obtain ⟨hr, hrules⟩ := List.forall_mem_cons.1 hrules
      obtain ⟨hsettled, h⟩ := List.forall_mem_cons.1 h
      have hfirst : Untouched so (applyRule on so r) := untouched_of_settled on hr (hso ▸ hsettled)
      exact hfirst.trans (ih hrules h _ (hfirst.text.trans hso))
  exact hfold step.rules hrules h ⟨s, ∅, []⟩ rfl

/-- Rules that refuse no match do not fail. -/
theorem failures_apply {step : Step} (hrules : ∀ r ∈ step.rules, r.Regular) (on : Subject)
    (s : Text) : (step.apply on s).failures = [] := by
  have hrule (so : StepResult) (hso : so.failures = []) (r : Rule) (hr : r ∈ step.rules) :
      (applyRule on so r).failures = [] := by
    obtain ⟨e, he⟩ := (hrules r hr).total so.text
    unfold applyRule
    split
    · rw [he]
      exact hso
    · exact hso
  have hnone : (⟨s, ∅, []⟩ : StepResult).failures = [] := rfl
  exact List.foldlRecOn (motive := fun so => so.failures = []) step.rules (applyRule on) hnone hrule

/-- A pass on a text in which no rule for the file has a match changes nothing. -/
theorem untouched_pass (hrules : ∀ step ∈ steps, ∀ r ∈ step.rules, r.Regular)
    (h : ∀ step ∈ steps, ∀ r ∈ step.rules, r.accepts on = true → r.Settled s) :
    ∀ x ∈ pass on steps s, Untouched ⟨x.1, ∅, []⟩ x.2 := by
  induction steps with
  | nil => exact fun x hx => nomatch hx
  | cons step steps ih =>
    obtain ⟨hregular, hrules⟩ := List.forall_mem_cons.1 hrules
    obtain ⟨hsettled, h⟩ := List.forall_mem_cons.1 h
    have hstep := apply_of_settled hregular hsettled
    refine List.forall_mem_cons.2 ⟨hstep, ?_⟩
    rw [hstep.text]
    exact ih hrules h

end SourceMend.Step
