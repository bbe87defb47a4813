import SourceMend.Proofs.Step.Pass

/-!
# Rules that fail

A rule fails when its transform refuses a match of the text that the rule sees
(`Rule.fails`).  All its replacements are given up then, so the rules after it see
what the rules before it have left, and the step comes to what it comes to without
the rule (`asIfAbsent_failing`).  The two steps are compared rule by rule: what one more
rule does is `Applied`, and `Spared` holds between the results with and without
the rules that are gone.
-/

namespace SourceMend

/-! ## One rule -/

namespace Rule

variable {r : Rule} {on : Subject} {s : Text} {ms : List Match}

/-- Whether a rule is for a file and fails on a text. -/
def fails (on : Subject) (s : Text) (r : Rule) : Bool := r.accepts on && r.refuses s

end Rule

/-! ## One more rule -/

namespace Step

variable {on : Subject} {so so' : StepResult} {r : Rule} {rules : List Rule} {s : Step}
  {text : Text} {gone : List String} {k : String}

/-- What one more rule may make of what has come of a step. -/
inductive Applied (on : Subject) (so : StepResult) (r : Rule) : StepResult → Prop where
  /-- The rule is not for the file. -/
  | skipped : r.accepts on = false → Applied on so r so
  /-- The rule fails. -/
  | failed {reason : String} : r.fails on so.text = true →
      Applied on so r ⟨so.text, so.counts.add r.name 0, so.failures ++ [⟨r.name, reason⟩]⟩
  /-- The rule replaces its matches. -/
  | replaced {out : Text} {fixes : Nat} : r.accepts on = true → r.refuses so.text = false →
      r.apply so.text = .ok (out, fixes) →
      Applied on so r ⟨out, so.counts.add r.name fixes, so.failures⟩

theorem applied (on : Subject) (so : StepResult) (r : Rule) :
    Applied on so r (applyRule on so r) := by
  cases haccepts : r.accepts on with
  | false =>
    have hso : applyRule on so r = so := if_neg (by simpa [Rule.accepts] using haccepts)
    rw [hso]
    exact .skipped haccepts
  | true =>
    have hfor : (r.acceptsPath on.rel on.full && r.acceptsCodes on.codes) = true := haccepts
    rcases r.apply_cases so.text with ⟨⟨reason, happly⟩, hrefuses⟩ | ⟨⟨e, happly⟩, hrefuses⟩
    · have hfails : r.fails on so.text = true := by simp [Rule.fails, haccepts, hrefuses]
      simp only [applyRule, hfor, happly, if_true]
      exact .failed hfails
    · simp only [applyRule, hfor, happly, if_true]
      exact .replaced haccepts hrefuses happly

theorem get?_foldl_of_not_mem (h : k ∉ rules.map Rule.name) :
    (rules.foldl (applyRule on) so).counts.get? k = so.counts.get? k := by
  induction rules generalizing so with
  | nil => rfl
  | cons r rules ih =>
    obtain ⟨hr, hrules⟩ := not_or.1 (mt List.mem_cons.2 h)
    rw [List.foldl_cons, ih hrules, get?_applyRule hr]

/-! ## The rules that fail -/

/-- The rules that fail when some rules run on a text, in order. -/
def failingFrom (on : Subject) : Text → List Rule → List Rule
  | _, [] => []
  | s, r :: rules => (if r.fails on s then [r] else []) ++ failingFrom on (r.next on s) rules

/-- The rules of a step that fail on a text, in order. -/
def failing (s : Step) (on : Subject) (text : Text) : List Rule := failingFrom on text s.rules

theorem sublist_failingFrom (on : Subject) (text : Text) (rules : List Rule) :
    (failingFrom on text rules).Sublist rules := by
  induction rules generalizing text with
  | nil => exact .slnil
  | cons r rules ih =>
    rw [failingFrom]
    split
    · exact (ih _).cons_cons r
    · exact (ih _).cons r

/-- A rule that fails stands where the rules before it leave a text on which it fails. -/
theorem mem_failingFrom : r ∈ failingFrom on text rules ↔ ∃ before after,
    rules = before ++ r :: after ∧ r.fails on (before.foldl (Rule.next on) text) = true := by
  induction rules generalizing text with
  | nil => simp [failingFrom]
  | cons q rules ih =>
    rw [failingFrom, List.mem_append, ih]
    constructor
    · rintro (hq | ⟨before, after, rfl, hr⟩)
      · split at hq
        · next hfails =>
          obtain rfl := List.mem_singleton.1 hq
          exact ⟨[], rules, rfl, hfails⟩
        · cases hq
      · exact ⟨q :: before, after, rfl, hr⟩
    · rintro ⟨before, after, hrules, hr⟩
      cases before with
      | nil =>
        obtain ⟨rfl, -⟩ := List.cons.inj hrules
        have hr : q.fails on text = true := hr
        exact .inl (by simp [hr])
      | cons p before =>
        obtain ⟨rfl, rfl⟩ := List.cons.inj hrules
        exact .inr ⟨before, after, rfl, hr⟩

/-- Every rule that fails is reported once, in order. -/
theorem rule_failures_foldl : (rules.foldl (applyRule on) so).failures.map RuleFailure.rule
    = so.failures.map RuleFailure.rule ++ (failingFrom on so.text rules).map Rule.name := by
  induction rules generalizing so with
  | nil => simp [failingFrom]
  | cons r rules ih =>
    have hstep : (applyRule on so r).failures.map RuleFailure.rule
        = so.failures.map RuleFailure.rule ++ if r.fails on so.text then [r.name] else [] := by
      have happlied := applied on so r
      generalize applyRule on so r = x at happlied ⊢
      cases happlied with
      | skipped haccepts => simp [Rule.fails, haccepts]
      | failed hfails => simp [hfails]
      | replaced _ hrefuses _ => simp [Rule.fails, hrefuses]
    rw [List.foldl_cons, ih, hstep, text_applyRule, failingFrom]
    split <;> simp

/-! ## Without the rules that fail -/

/-- The step without the rules that have the name of one of `gone`. -/
def without (s : Step) (gone : List Rule) : Step :=
  { s with rules := s.rules.filter fun r => !(gone.map Rule.name).contains r.name }

/-- What holds between the results of a step with and without the rules that are `gone`. -/
structure Spared (gone : List String) (so so' : StepResult) : Prop where
  /-- The text is the same. -/
  text : so'.text = so.text
  /-- Every other rule has the same number. -/
  count : ∀ k, k ∉ gone → so'.counts.get? k = so.counts.get? k
  /-- No other rule has failed. -/
  failures : so'.failures = []

theorem Spared.add (h : Spared gone so so') {out : Text} {fixes : Nat} :
    Spared gone ⟨out, so.counts.add r.name fixes, so.failures⟩
      ⟨out, so'.counts.add r.name fixes, so'.failures⟩ where
  text := rfl
  count k hk := by
    rw [Counts.get?_add, Counts.get?_add]
    split
    · next hkr =>
      subst hkr
      rw [Counts.get, Counts.get, h.count _ hk]
    · exact h.count k hk
  failures := h.failures

/-- A rule that does not fail does the same with and without the others. -/
theorem Spared.keep (h : Spared gone so so') (hr : r.fails on so.text = false) :
    Spared gone (applyRule on so r) (applyRule on so' r) := by
  cases haccepts : r.accepts on with
  | false =>
    have hskip (so : StepResult) : applyRule on so r = so :=
      if_neg (by simpa [Rule.accepts] using haccepts)
    rw [hskip, hskip]
    exact h
  | true =>
    have hfor : (r.acceptsPath on.rel on.full && r.acceptsCodes on.codes) = true := haccepts
    rcases r.apply_cases so.text with ⟨-, hrefuses⟩ | ⟨⟨e, happly⟩, -⟩
    · simp [Rule.fails, haccepts, hrefuses] at hr
    · simp only [applyRule, hfor, h.text, happly, if_true]
      exact h.add

/-- A rule that fails leaves no trace but under its own name. -/
theorem Spared.drop (h : Spared gone so so') (hr : r.fails on so.text = true)
    (hgone : r.name ∈ gone) : Spared gone (applyRule on so r) so' where
  text := by
    have htext : (applyRule on so r).text = so.text := by
      have happlied := applied on so r
      generalize applyRule on so r = x at happlied ⊢
      cases happlied with
      | skipped => rfl
      | failed => rfl
      | replaced _ hrefuses _ => simp [Rule.fails, hrefuses] at hr
    rw [h.text, htext]
  count k hk := by
    have hne : k ≠ r.name := fun heq => hk (heq ▸ hgone)
    rw [h.count k hk, get?_applyRule hne]
  failures := h.failures

/-- Rules come to the same with and without those that are gone, if these are the ones that fail. -/
theorem Spared.foldl (h : Spared gone so so')
    (hgone : ∀ before r after, rules = before ++ r :: after →
      (r.name ∈ gone ↔ r.fails on (before.foldl (Rule.next on) so.text) = true)) :
    Spared gone (rules.foldl (applyRule on) so)
      ((rules.filter fun r => !gone.contains r.name).foldl (applyRule on) so') := by
  induction rules generalizing so so' with
  | nil => exact h
  | cons r rules ih =>
    have hr : r.name ∈ gone ↔ r.fails on so.text = true := hgone [] r rules rfl
    have hrules : ∀ before q after, rules = before ++ q :: after → (q.name ∈ gone
        ↔ q.fails on (before.foldl (Rule.next on) (applyRule on so r).text) = true) := by
      rintro before q after rfl
      rw [text_applyRule]
      exact hgone (r :: before) q after rfl
    rw [List.foldl_cons]
    by_cases hmem : r.name ∈ gone
    · rw [List.filter_cons_of_neg (by simpa using hmem)]
      exact ih (h.drop (hr.1 hmem) hmem) hrules
    · have hnot : r.fails on so.text = false := Bool.eq_false_iff.2 fun hfails => hmem (hr.2 hfails)
      rw [List.filter_cons_of_pos (by simpa using hmem), List.foldl_cons]
      exact ih (h.keep hnot) hrules

/-! ## Distinct names -/

/-- Of rules with distinct names, one is found by its name. -/
theorem eq_of_name_eq (hnames : (rules.map Rule.name).Nodup) {q : Rule}
    {before after before' after' : List Rule} (hr : rules = before ++ r :: after)
    (hq : rules = before' ++ q :: after') (hname : r.name = q.name) : before = before' ∧ r = q := by
  have hsplit : before.map Rule.name ++ r.name :: after.map Rule.name
      = before'.map Rule.name ++ r.name :: after'.map Rule.name := by
    have hsame := congrArg (List.map Rule.name) (hr.symm.trans hq)
    simpa [hname] using hsame
  rw [hr, List.map_append, List.map_cons, List.nodup_middle, List.nodup_cons, List.mem_append,
    not_or] at hnames
  obtain ⟨hbefore, -, -⟩ :=
    (List.append_cons_inj_of_notMem hnames.1.1 hnames.1.2).1 hsplit
  have hlength : before.length = before'.length := by simpa using congrArg List.length hbefore
  obtain ⟨rfl, hcons⟩ := List.append_inj (hr.symm.trans hq) hlength
  exact ⟨rfl, (List.cons.inj hcons).1⟩

/-- What the rules that fail mean for the others, when their names are distinct. -/
structure AsIfAbsent (s : Step) (on : Subject) (text : Text) (failing : List Rule) : Prop where
  /-- The rules that fail are those for the file that refuse a match of the text that they see. -/
  fails : ∀ r, r ∈ failing ↔ ∃ before after, s.rules = before ++ r :: after ∧ r.accepts on = true
    ∧ ∃ m ∈ r.pattern.matches ({ s with rules := before }.apply on text).text, ∃ reason,
      r.transform.replacement r.pattern m = .error reason
  /-- They are listed in the order of the step. -/
  order : failing.Sublist s.rules
  /-- Without them the step has the other rules. -/
  rest : ∀ r, r ∈ (s.without failing).rules ↔ r ∈ s.rules ∧ r ∉ failing
  /-- The text is what it is without them. -/
  result : (s.apply on text).text = ((s.without failing).apply on text).text
  /-- Every other rule has as many fixes as without them. -/
  count : ∀ r ∈ s.rules, r ∉ failing →
    (s.apply on text).counts.get? r.name = ((s.without failing).apply on text).counts.get? r.name
  /-- They have no fix. -/
  zero : ∀ r ∈ failing, (s.apply on text).counts.get? r.name = some 0
  /-- Each is reported once, in their order. -/
  reported : (s.apply on text).failures.map RuleFailure.rule = failing.map Rule.name
  /-- Without them nothing is reported. -/
  clean : ((s.without failing).apply on text).failures = []

theorem name_mem_failing (hnames : (rules.map Rule.name).Nodup)
    {before after : List Rule} (hr : rules = before ++ r :: after) :
    r.name ∈ (failingFrom on text rules).map Rule.name
      ↔ r.fails on (before.foldl (Rule.next on) text) = true := by
  constructor
  · intro hmem
    obtain ⟨q, hq, hname⟩ := List.mem_map.1 hmem
    obtain ⟨before', after', hq, hfails⟩ := mem_failingFrom.1 hq
    obtain ⟨rfl, rfl⟩ := eq_of_name_eq hnames hr hq hname.symm
    exact hfails
  · intro hfails
    exact List.mem_map.2 ⟨r, mem_failingFrom.2 ⟨before, after, hr, hfails⟩, rfl⟩

/-- A rule that fails has the number zero. -/
theorem get?_of_mem_failing (hnames : (s.rules.map Rule.name).Nodup)
    (hr : r ∈ s.failing on text) : (s.apply on text).counts.get? r.name = some 0 := by
  obtain ⟨before, after, hrules, hfails⟩ := mem_failingFrom.1 hr
  rw [hrules, List.map_append, List.map_cons, List.nodup_middle, List.nodup_cons, List.mem_append,
    not_or] at hnames
  obtain ⟨⟨hbefore, hafter⟩, -⟩ := hnames
  have hnone : (before.foldl (applyRule on) ⟨text, ∅, []⟩).counts.get? r.name = none :=
    get?_foldl_of_not_mem hbefore
  rw [apply, hrules, List.foldl_append, List.foldl_cons, get?_foldl_of_not_mem hafter]
  have htext : (before.foldl (applyRule on) ⟨text, ∅, []⟩).text
      = before.foldl (Rule.next on) text := text_foldl before
  rw [← htext] at hfails
  have happlied := applied on (before.foldl (applyRule on) ⟨text, ∅, []⟩) r
  generalize applyRule on (before.foldl (applyRule on) ⟨text, ∅, []⟩) r = x at happlied ⊢
  cases happlied with
  | skipped haccepts => simp [Rule.fails, haccepts] at hfails
  | failed => simp [Counts.get?_add, Counts.get, hnone]
  | replaced _ hrefuses _ => simp [Rule.fails, hrefuses] at hfails

/-- The rules of a step that fail are as if they were absent. -/
theorem asIfAbsent_failing (s : Step) (hnames : (s.rules.map Rule.name).Nodup) (on : Subject)
    (text : Text) : AsIfAbsent s on text (s.failing on text) := by
  have hspared : Spared ((s.failing on text).map Rule.name) (s.apply on text)
      ((s.without (s.failing on text)).apply on text) := by
    have hstart : Spared ((s.failing on text).map Rule.name) ⟨text, ∅, []⟩ ⟨text, ∅, []⟩ :=
      ⟨rfl, fun _ _ => rfl, rfl⟩
    exact hstart.foldl fun before r after hr => name_mem_failing hnames hr
  have hname {r : Rule} (hr : r ∈ s.rules) :
      r.name ∈ (s.failing on text).map Rule.name ↔ r ∈ s.failing on text := by
    refine ⟨fun hmem => ?_, List.mem_map_of_mem⟩
    obtain ⟨q, hq, hqr⟩ := List.mem_map.1 hmem
    have hq' : q ∈ s.rules := (sublist_failingFrom on text s.rules).subset hq
    exact List.inj_on_of_nodup_map hnames hq' hr hqr ▸ hq
  constructor
  case fails =>
    intro r
    simp only [failing, mem_failingFrom, Rule.fails, Bool.and_eq_true, Rule.refuses_iff]
    refine exists_congr fun before => exists_congr fun after => and_congr_right fun _ => ?_
    have hseen : ({ s with rules := before }.apply on text).text
        = before.foldl (Rule.next on) text := text_foldl before
    rw [hseen]
  case order => exact sublist_failingFrom on text s.rules
  case rest =>
    intro r
    simp only [without, List.mem_filter, Bool.not_eq_true', List.contains_eq_mem,
      decide_eq_false_iff_not]
    exact and_congr_right fun hr => not_congr (hname hr)
  case result => exact hspared.text.symm
  case count =>
    intro r hr hnot
    exact (hspared.count r.name fun hmem => hnot ((hname hr).1 hmem)).symm
  case zero => exact fun r hr => get?_of_mem_failing hnames hr
  case reported => exact rule_failures_foldl
  case clean => exact hspared.failures

/-- A step with a rule that replaces letters and fails at a `b`, and a rule for this letter. -/
def faultyStep : Step where
  name := "s"
  description := ""
  priority := 1
  rules := [{ name := "letters", pattern := ⟨"[a-c]", .take (.range 'a' 'c'), []⟩,
              transform := .computed fun m => if m.text = ['b'] then .error "no" else .ok ['x'] },
    { name := "b", pattern := ⟨"b", .take (.single 'b'), []⟩, transform := .literal "y" }]

/-- The first rule could replace the `a`, and nothing of that is left. -/
theorem asIfAbsent_failing_partly :
    let on : Subject := ⟨⟨"a.ts"⟩, ⟨"/p/a.ts"⟩, none⟩
    (faultyStep.rules.map Rule.name).Nodup
      ∧ (faultyStep.failing on "abc".toList).map Rule.name = ["letters"]
      ∧ (faultyStep.apply on "abc".toList).text = "ayc".toList
      ∧ (faultyStep.apply on "abc".toList).counts.entries = [("b", 1), ("letters", 0)]
      ∧ AsIfAbsent faultyStep on "abc".toList (faultyStep.failing on "abc".toList) :=
  ⟨by decide, by decide +kernel, by decide +kernel, by decide +kernel,
    asIfAbsent_failing faultyStep (by decide) _ _⟩

end Step
end SourceMend
