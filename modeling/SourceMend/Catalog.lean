import SourceMend.Fault
import SourceMend.Step
import SourceMend.Text.Escape

/-!
# Catalogs

A catalog is a list of steps in ascending priority.  `Catalog.ofSteps` sorts
steps and refuses them if a name is blank, if two steps or two rules share a
name, or if two steps share a priority.  So the counts of a run, which are kept
by name, belong to one step or rule each.

`Catalog.select` restricts a catalog to some priorities.
-/

namespace SourceMend

/-- Why there is no catalog, or no selection from it. -/
inductive CatalogError where
  /-- The file at a path could not be read. -/
  | read (path : Path) (fault : Fault)
  /-- The file at a path does not describe a catalog. -/
  | parse (path : Path) (reason : String)
  /-- The pattern of a rule is refused. -/
  | pattern (rule : String) (error : Pattern.Error)
  /-- The file filter of a rule is refused. -/
  | filter (rule glob : String) (error : Glob.Error)
  /-- Two steps share a priority. -/
  | samePriority (priority : Nat) (first second : String)
  /-- Two steps share a name. -/
  | sameStepName (name : String)
  /-- Two rules share a name. -/
  | sameRuleName (name : String)
  /-- The name of a step is blank. -/
  | blankStepName (priority : Nat)
  /-- The name of a rule is blank. -/
  | blankRuleName (step : String)
  /-- Priorities are selected that no step has. -/
  | unknownSteps (ids : List Nat)
  deriving Repr

namespace CatalogError

/-- The text of an error. -/
def message : CatalogError → String
  | read path fault => "failed to read catalog " ++ path.display ++ ": " ++ fault.message
  | parse path reason => "catalog " ++ path.display ++ " is not valid: " ++ reason
  | pattern rule error => "rule `" ++ rule ++ "` has an invalid pattern: " ++ error.message
  | filter rule glob error =>
    "rule `" ++ rule ++ "` has an invalid file filter `" ++ glob ++ "`: " ++ error.message
  | samePriority priority first second =>
    "steps `" ++ first ++ "` and `" ++ second ++ "` share priority " ++ toString priority
  | sameStepName name => "step name `" ++ name ++ "` is used more than once"
  | sameRuleName name => "rule name `" ++ name ++ "` is used more than once"
  | blankStepName priority => "step with priority " ++ toString priority ++ " has an empty name"
  | blankRuleName step => "step `" ++ step ++ "` contains a rule with an empty name"
  | unknownSteps ids =>
    "unknown step id(s): [" ++ ", ".intercalate (ids.map toString) ++ "]"

end CatalogError

/-- Steps in ascending priority. -/
structure Catalog where
  /-- The steps. -/
  steps : List Step

namespace Catalog

/-! ## Validity -/

/-- Whether a name is blank. -/
def isBlankName (name : String) : Bool := Text.isBlankText name.toList

/-- The first blank name of some steps or their rules. -/
def blankName? : List Step → Option CatalogError
  | [] => none
  | s :: rest =>
    if isBlankName s.name then some (.blankStepName s.priority)
    else if s.rules.any fun r => isBlankName r.name then some (.blankRuleName s.name)
    else blankName? rest

/-- The first name of some rules that is used, or all used names with those of the rules. -/
def useRuleNames (used : List String) : List Rule → Except CatalogError (List String)
  | [] => .ok used
  | r :: rest =>
    if used.contains r.name then .error (.sameRuleName r.name)
    else useRuleNames (r.name :: used) rest

/-- The first name that two of some steps or rules share. -/
def sharedName? (stepNames ruleNames : List String) : List Step → Option CatalogError
  | [] => none
  | s :: rest =>
    if stepNames.contains s.name then some (.sameStepName s.name)
    else
      match useRuleNames ruleNames s.rules with
      | .error e => some e
      | .ok used => sharedName? (s.name :: stepNames) used rest

/-- The first priority that two neighbouring steps share. -/
def sharedPriority? : List Step → Option CatalogError
  | s :: t :: rest =>
    if s.priority = t.priority then some (.samePriority s.priority s.name t.name)
    else sharedPriority? (t :: rest)
  | _ => none

/-- The catalog of some steps. -/
def ofSteps (steps : List Step) : Except CatalogError Catalog :=
  let sorted := steps.mergeSort fun s t => s.priority ≤ t.priority
  match blankName? sorted <|> sharedName? [] [] sorted <|> sharedPriority? sorted with
  | some e => .error e
  | none => .ok ⟨sorted⟩

/-! ## Selection -/

/-- Numbers in ascending order, each once. -/
def ascending (ids : List Nat) : List Nat := (ids.mergeSort fun a b => a ≤ b).eraseDups

/-- The steps with the given priorities in ascending order, all if there are none given. -/
def select (c : Catalog) (ids? : Option (List Nat)) : Except CatalogError (List Step) :=
  match ids? with
  | none => .ok c.steps
  | some ids =>
    let unknown := ids.filter fun id => !c.steps.any fun s => s.priority == id
    if unknown.isEmpty then .ok (c.steps.filter fun s => ids.contains s.priority)
    else .error (.unknownSteps (ascending unknown))

end Catalog
end SourceMend
