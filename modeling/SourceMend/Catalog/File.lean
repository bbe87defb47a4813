import SourceMend.Catalog.Builtin
import SourceMend.Toml
import SourceMend.Tree

/-!
# Catalogs from files

A catalog file lists steps, and every step lists its rules.  `Catalog.ofText`
reads such a file and builds the catalog, and `Catalog.load` takes the file from
a tree.
-/

namespace SourceMend.Catalog

/-- A rule as a file describes it. -/
structure RuleSpec where
  /-- The name. -/
  name : String
  /-- The pattern. -/
  pattern : String
  /-- The template or the text that replaces a match. -/
  replace : String
  /-- Whether the replacement is taken as it is. -/
  literal : Bool
  /-- The file filter. -/
  files : Option String
  /-- The codes that the rule is for. -/
  codes : List String
  deriving DecidableEq, Repr

/-- A step as a file describes it. -/
structure StepSpec where
  /-- The name. -/
  name : String
  /-- What the step is for. -/
  description : String
  /-- The place of the step among all steps. -/
  priority : Nat
  /-- The rules. -/
  rules : List RuleSpec
  deriving DecidableEq, Repr

section Reading

open Readable

variable {V : Type} [Readable V]

/-- The description of a rule. -/
def RuleSpec.read (v : V) : Reading RuleSpec := do
  let fs ← fields ["name", "pattern", "replace", "literal", "files", "codes"] 2 v
  return {
    name := ← required fs "name" text
    pattern := ← required fs "pattern" text
    replace := ← withDefault fs "replace" "" text
    literal := ← withDefault fs "literal" false bool
    files := ← optional fs "files" text
    codes := ← withDefault fs "codes" [] (list text) }

/-- The description of a step. -/
def StepSpec.read (v : V) : Reading StepSpec := do
  let fs ← fields ["name", "description", "priority", "rules"] 3 v
  return {
    name := ← required fs "name" text
    description := ← withDefault fs "description" "" text
    priority := ← required fs "priority" (nat Text.word32)
    rules := ← withDefault fs "rules" [] (list RuleSpec.read) }

/-- The descriptions of the steps of a catalog. -/
def readSteps (fs : List (String × V)) : Reading (List StepSpec) :=
  withDefault fs "steps" [] (list StepSpec.read)

end Reading

/-- The rule that a description stands for. -/
def RuleSpec.build (r : RuleSpec) : Except CatalogError Rule := do
  let transform : Transform := if r.literal then .literal r.replace else .template r.replace
  let rule ← Rule.build r.name r.pattern transform r.codes
  match r.files with
  | some filter => rule.restrict filter
  | none => return rule

/-- The step that a description stands for. -/
def StepSpec.build (s : StepSpec) : Except CatalogError Step := do
  return {
    name := s.name
    description := s.description
    priority := s.priority
    rules := ← s.rules.mapM RuleSpec.build }

/-- The catalog in the text of a file at `origin`. -/
def ofText (s : String) (origin : Path) : Except CatalogError Catalog :=
  match (Toml.ofText? s.toList).bind readSteps with
  | .error reason => .error (.parse origin reason)
  | .ok specs => do ofSteps (← specs.mapM StepSpec.build)

/-- The catalog in the file at a path. -/
def load (t : Tree) (p : Path) : Except CatalogError Catalog :=
  match t.readText p with
  | .error f => .error (.read p f)
  | .ok s => ofText s p

end SourceMend.Catalog
