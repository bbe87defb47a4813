import SourceMend.Catalog

/-!
# Building rules

`Rule.build` compiles the pattern of a rule and `Rule.restrict` adds a file
filter.  Both may fail, with an error that names the rule.
-/

namespace SourceMend.Rule

/-- Codes in ascending order, each once. -/
def codeSet (codes : List String) : List String :=
  (codes.mergeSort fun a b => decide (a ≤ b)).eraseDups

/-- A rule from the text of its pattern. -/
def build (name pattern : String) (transform : Transform) (codes : List String := []) :
    Except CatalogError Rule :=
  match Pattern.compile pattern with
  | .ok p => .ok { name, pattern := p, transform, codes := codeSet codes }
  | .error e => .error (.pattern name e)

/-- A rule for the files that a filter accepts. -/
def restrict (r : Rule) (filter : String) : Except CatalogError Rule :=
  match Glob.ofText? filter with
  | .ok g => .ok { r with files := some g }
  | .error e => .error (.filter r.name filter e)

end SourceMend.Rule
