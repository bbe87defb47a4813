import SourceMend.Proofs.Rule.Weight
import SourceMend.Proofs.Step
import SourceMend.Proofs.Step.Failure

/-!
# What the number of fixes tells

A step has a fix exactly if one of its rules, when its turn comes, replaces a match by a
different text (`total_foldl_lt`).  Whether the text after the step differs is another
matter, since fixes may undo each other.  It does if there is a single fix
(`tells_of_total_le_one`), or if all fixes add to the weight of the text
(`tells_of_gains`).
-/

namespace SourceMend

variable {on : Subject} {so : StepResult} {r : Rule} {rules : List Rule} {text out : Text}
  {fixes : Nat}

/-- Whether a rule is for a file, refuses no match of a text and replaces one by a different text. -/
structure Rule.HasFix (on : Subject) (s : Text) (r : Rule) : Prop where
  /-- The rule is for the file. -/
  accepts : r.accepts on = true
  /-- It refuses no match. -/
  total : ∀ m ∈ r.pattern.matches s, ∃ t, r.transform.replacement r.pattern m = .ok t
  /-- It replaces a match by a different text. -/
  differs : ∃ m ∈ r.pattern.matches s, ∃ t,
    r.transform.replacement r.pattern m = .ok t ∧ t ≠ m.text

namespace Step

/-! ## One more rule -/

/-- What one more rule adds to the fixes. -/
theorem total_applyRule (on : Subject) (so : StepResult) (r : Rule) :
    ∃ n, (applyRule on so r).total = so.total + n ∧ (0 < n ↔ r.HasFix on so.text) := by
  have happlied := applied on so r
  generalize applyRule on so r = x at happlied ⊢
  cases happlied with
  | skipped haccepts =>
    refine ⟨0, rfl, iff_of_false (Nat.lt_irrefl 0) fun h => ?_⟩
    rw [h.accepts] at haccepts
    cases haccepts
  | failed hfails =>
    refine ⟨0, by simp [StepResult.total], iff_of_false (Nat.lt_irrefl 0) fun h => ?_⟩
    rw [Rule.fails, Rule.refuses_eq_false_iff.2 h.total, Bool.and_false] at hfails
    cases hfails
  | @replaced out fixes haccepts hrefuses happly =>
    refine ⟨fixes, by simp [StepResult.total], ?_⟩
    rw [Rule.pos_iff_of_apply happly]
    exact ⟨fun h => ⟨haccepts, Rule.refuses_eq_false_iff.1 hrefuses, h⟩, fun h => h.differs⟩

/-- What holds between a text and what has come of a step on it: after a single fix it differs. -/
def Single (text : Text) (so : StepResult) : Prop := so.total = 1 → so.text ≠ text

theorem Single.applyRule (hcounted : Counted text so) (h : Single text so) :
    Single text (applyRule on so r) := by
  intro hone
  have happlied := applied on so r
  generalize Step.applyRule on so r = x at happlied hone ⊢
  cases happlied with
  | skipped => exact h hone
  | failed => exact h (by simpa [StepResult.total] using hone)
  | @replaced out fixes _ _ happly =>
    have hsum : so.total + fixes = 1 := by simpa [StepResult.total] using hone
    rcases Nat.eq_zero_or_pos fixes with rfl | hpos
    · rw [Rule.eq_of_apply_eq_zero happly rfl]
      exact h hsum
    · -- the fix is one of this rule, and the rules before it have left the text
      obtain rfl : fixes = 1 := by omega
      rw [← hcounted (by omega)]
      exact Rule.ne_of_apply_eq_one happly

/-- What holds between a text and what has come of a step on it, if each fix adds to the weight. -/
def Weighed (w : Char → Int) (text : Text) (so : StepResult) : Prop :=
  text.weight w + so.total ≤ so.text.weight w

theorem Weighed.applyRule {w : Char → Int} (h : Weighed w text so) (hr : r.Gains w) :
    Weighed w text (applyRule on so r) := by
  have happlied := applied on so r
  generalize Step.applyRule on so r = x at happlied ⊢
  cases happlied with
  | skipped => exact h
  | failed => simpa [Weighed, StepResult.total] using h
  | @replaced out fixes _ _ happly =>
    have hweight := Rule.weight_add_le_of_apply hr happly
    simp only [Weighed, StepResult.total, Counts.total_add] at h ⊢
    omega

/-! ## All rules -/

theorem total_le_foldl : so.total ≤ (rules.foldl (applyRule on) so).total := by
  induction rules generalizing so with
  | nil => exact Nat.le_refl _
  | cons r rules ih =>
    obtain ⟨n, hn, -⟩ := total_applyRule on so r
    rw [List.foldl_cons]
    refine Nat.le_trans ?_ ih
    omega

/-- There are more fixes after some rules exactly if one of them has a fix in the text that it
sees. -/
theorem total_foldl_lt (so : StepResult) : so.total < (rules.foldl (applyRule on) so).total
    ↔ ∃ before r after, rules = before ++ r :: after
      ∧ r.HasFix on (before.foldl (Rule.next on) so.text) := by
  induction rules generalizing so with
  | nil => simp
  | cons q rules ih =>
    obtain ⟨n, hn, hfix⟩ := total_applyRule on so q
    have hle : (applyRule on so q).total ≤ (rules.foldl (applyRule on) (applyRule on so q)).total :=
      total_le_foldl
    have hcases : so.total < (rules.foldl (applyRule on) (applyRule on so q)).total
        ↔ 0 < n ∨ (applyRule on so q).total
          < (rules.foldl (applyRule on) (applyRule on so q)).total := by omega
    rw [List.foldl_cons, hcases, hfix, ih, text_applyRule]
    constructor
    · rintro (hq | ⟨before, r, after, rfl, hr⟩)
      · exact ⟨[], q, rules, rfl, hq⟩
      · exact ⟨q :: before, r, after, rfl, hr⟩
    · rintro ⟨before, r, after, hrules, hr⟩
      cases before with
      | nil =>
        obtain ⟨rfl, -⟩ := List.cons.inj hrules
        exact .inl hr
      | cons p before =>
        obtain ⟨rfl, rfl⟩ := List.cons.inj hrules
        exact .inr ⟨before, r, after, rfl, hr⟩

/-! ## Steps -/

variable {s : Step}

/-- Whether the number of fixes tells if a step has changed a text. -/
def Tells (s : Step) (on : Subject) (text : Text) : Prop :=
  0 < (s.apply on text).total ↔ (s.apply on text).text ≠ text

theorem total_pos_of_text_ne (h : (s.apply on text).text ≠ text) : 0 < (s.apply on text).total :=
  Nat.pos_of_ne_zero fun hzero => h (text_eq_of_total_eq_zero hzero)

theorem total_pos_iff : 0 < (s.apply on text).total ↔ ∃ before r after,
    s.rules = before ++ r :: after ∧ r.HasFix on ({ s with rules := before }.apply on text).text := by
  have hseen (before : List Rule) : ({ s with rules := before }.apply on text).text
      = before.foldl (Rule.next on) text := text_foldl before
  simp only [hseen]
  exact total_foldl_lt ⟨text, ∅, []⟩

theorem tells_of_total_le_one (h : (s.apply on text).total ≤ 1) : s.Tells on text := by
  have hinvariant : Counted text (s.apply on text) ∧ Single text (s.apply on text) :=
    List.foldlRecOn (motive := fun so => Counted text so ∧ Single text so) s.rules (applyRule on)
      ⟨fun _ => rfl, nofun⟩ fun _ hso _ _ => ⟨hso.1.applyRule, Single.applyRule hso.1 hso.2⟩
  exact ⟨fun hpos => hinvariant.2 (Nat.le_antisymm h hpos), total_pos_of_text_ne⟩

theorem tells_of_gains {w : Char → Int} (h : ∀ r ∈ s.rules, r.Gains w) : s.Tells on text := by
  have hstart : Weighed w text ⟨text, ∅, []⟩ := by simp [Weighed, StepResult.total]
  have hweighed : Weighed w text (s.apply on text) :=
    List.foldlRecOn s.rules (applyRule on) hstart fun _ hso r hr => hso.applyRule (h r hr)
  refine ⟨fun hpos hsame => ?_, total_pos_of_text_ne⟩
  rw [Weighed, hsame] at hweighed
  omega

end Step
end SourceMend
