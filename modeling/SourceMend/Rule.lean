import SourceMend.Glob
import SourceMend.Path
import SourceMend.Pattern.Template

/-!
# Rules

A rule replaces the matches of a pattern.  It may be restricted to files by a
filter, and to diagnostics by codes: a rule with codes is *scoped* and runs only
on a file for which one of them is outstanding.

`Rule.apply` replaces every match or, if the replacement of one match fails,
nothing at all.  A match counts as a fix only when its replacement differs from
it, and without a fix the text stays as it is.
-/

namespace SourceMend

/-- How a match becomes replacement text. -/
inductive Transform where
  /-- A template in which groups are named. -/
  | template (t : String)
  /-- A fixed text. -/
  | literal (t : String)
  /-- A function of the match, which may refuse with a message. -/
  | computed (f : Match → Except String Text)

/-- A named replacement. -/
structure Rule where
  /-- The name. -/
  name : String
  /-- What is replaced. -/
  pattern : Pattern
  /-- What it is replaced by. -/
  transform : Transform
  /-- The files that the rule is for, all if there is no filter. -/
  files : Option Glob := none
  /-- The codes that the rule is for, ascending.  Without codes it needs none. -/
  codes : List String := []

/-- A rule that refused to replace a match. -/
structure RuleFailure where
  /-- The name of the rule. -/
  rule : String
  /-- Why it refused. -/
  reason : String
  deriving DecidableEq, Repr

namespace RuleFailure

/-- The text of a failure. -/
def message (f : RuleFailure) : String := "rule `" ++ f.rule ++ "` failed: " ++ f.reason

end RuleFailure

/-- The replacement of a match. -/
def Transform.replacement (t : Transform) (p : Pattern) (m : Match) : Except String Text :=
  match t with
  | template t => .ok (p.expand m t.toList)
  | literal t => .ok t.toList
  | computed f => f m

namespace Rule

/-! ## Restrictions -/

/-- Whether the rule needs an outstanding code. -/
def isScoped (r : Rule) : Bool := !r.codes.isEmpty

/-- Whether the rule is for a file: its filter accepts the path as seen from the target, or the
path itself.  No filter accepts a path that is not UTF-8. -/
def acceptsPath (r : Rule) (rel full : Path) : Bool :=
  match r.files with
  | none => true
  | some g => rel.text.toText?.any g.accepts || full.text.toText?.any g.accepts

/-- Whether the rule is for a file with these outstanding codes. -/
def acceptsCodes (r : Rule) (outstanding : Option (List String)) : Bool :=
  !r.isScoped || (outstanding.getD []).any r.codes.contains

/-! ## Replacing -/

/-- A text with the parts at some ascending places replaced.  `position` is the number of
characters before the text. -/
def splice (position : Nat) (s : Text) : List (Match × Text) → Text
  | [] => s
  | (m, replacement) :: rest =>
    s.take (m.start - position) ++ replacement
      ++ splice m.stop (s.drop (m.stop - position)) rest

/-- A match with its replacement. -/
def edit (r : Rule) (m : Match) : Except RuleFailure (Match × Text) :=
  match r.transform.replacement r.pattern m with
  | .ok t => .ok (m, t)
  | .error reason => .error ⟨r.name, reason⟩

/-- The matches of the rule with their replacements. -/
def replacements (r : Rule) (s : Text) : Except RuleFailure (List (Match × Text)) :=
  (r.pattern.matches s).mapM r.edit

/-- The text after the rule, and the number of fixes. -/
def apply (r : Rule) (s : Text) : Except RuleFailure (Text × Nat) := do
  let edits ← r.replacements s
  let fixes := (edits.filter fun e => e.2 != e.1.text).length
  return if fixes = 0 then (s, 0) else (splice 0 s edits, fixes)

end Rule
end SourceMend
