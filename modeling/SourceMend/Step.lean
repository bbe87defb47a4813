import SourceMend.Counts
import SourceMend.Rule

/-!
# Steps

A step is a list of rules that run together, at a priority.  Every rule sees the
text that the rules before it leave.  A rule that fails leaves the text as it
was, and the rules after it still run.
-/

namespace SourceMend

/-- Rules that run together at one priority. -/
structure Step where
  /-- The name. -/
  name : String
  /-- What the step is for. -/
  description : String
  /-- The place of the step among all steps, below 2³². -/
  priority : Nat
  /-- The rules, in the order in which they run. -/
  rules : List Rule

/-- What came of a step on one file. -/
structure StepResult where
  /-- The text after the step. -/
  text : Text
  /-- The fixes of each rule that ran. -/
  counts : Counts
  /-- The rules that failed, in order. -/
  failures : List RuleFailure

namespace StepResult

/-- The number of fixes. -/
def total (r : StepResult) : Nat := r.counts.total

end StepResult

/-- A file as rules see it. -/
structure Subject where
  /-- Its path as seen from the target. -/
  rel : Path
  /-- Its path. -/
  full : Path
  /-- Its outstanding codes, if diagnostics were collected for it. -/
  codes : Option (List String)

namespace Step

/-- Whether any rule needs an outstanding code. -/
def hasScoped (s : Step) : Bool := s.rules.any Rule.isScoped

/-- Whether there are rules and all of them need an outstanding code. -/
def fullyScoped (s : Step) : Bool := !s.rules.isEmpty && s.rules.all Rule.isScoped

/-- What has come of a step after one more rule. -/
def applyRule (on : Subject) (so : StepResult) (r : Rule) : StepResult :=
  if r.acceptsPath on.rel on.full && r.acceptsCodes on.codes then
    match r.apply so.text with
    | .ok (text, fixes) => ⟨text, so.counts.add r.name fixes, so.failures⟩
    | .error f => ⟨so.text, so.counts.add r.name 0, so.failures ++ [f]⟩
  else so

/-- What comes of a step on a text. -/
def apply (s : Step) (on : Subject) (text : Text) : StepResult :=
  s.rules.foldl (applyRule on) ⟨text, ∅, []⟩

end Step
end SourceMend
