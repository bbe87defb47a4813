import SourceMend.Rule.Build

/-!
# The built-in catalog

Four steps for TypeScript sources, used when no other catalog is given.  The
rules of the last step are for files with certain diagnostics only.
-/

namespace SourceMend.Catalog

namespace Builtin

/-- `Promise<...>` with at most one level of nested type arguments. -/
def promiseType : String := "Promise<[^<>()]*(?:<[^<>()]*>[^<>()]*)*>"

/-- The parameter list of an arrow function with every parameter declared as `any`. -/
def annotateParameters (m : Match) : Except String Text :=
  match m.group? 1 with
  | none => .error "missing parameter list"
  | some list =>
    let declared := (Text.pieces ',' list).map fun p => Text.trim p ++ ": any".toList
    .ok ('(' :: Text.join ", ".toList declared ++ ") =>".toList)

/-- Blanks and punctuation that earlier edits leave behind. -/
def basicSyntax : Except CatalogError Step := do
  return {
    name := "Basic Syntax"
    description := "Whitespace and punctuation debris left by earlier edits"
    priority := 1
    rules := [
      ← Rule.build "Trailing whitespace" "(?mR)[ \\t]+$" (.literal ""),
      ← Rule.build "Duplicate semicolons" "(?mR);\x7b2,\x7d[ \\t]*$" (.literal ";"),
      ← Rule.build "Optional chain assignment" "([\\w$]+)\\?\\.([\\w$]+)(\\s*)=([^=>])"
        (.template "$\x7b1\x7d!.$\x7b2\x7d$\x7b3\x7d=$\x7b4\x7d")] }

/-- Type arguments written on the static functions of `Promise`. -/
def promisePatterns : Except CatalogError Step := do
  return {
    name := "Promise Patterns"
    description := "Generic arguments written on Promise statics instead of the call"
    priority := 2
    rules := [
      ← Rule.build "Promise<T>.resolve() syntax" (promiseType ++ "\\.resolve\\(")
        (.literal "Promise.resolve("),
      ← Rule.build "Promise<T> static call syntax"
        (promiseType ++ "\\.(reject|allSettled|all|race|any)\\(")
        (.template "Promise.$\x7b1\x7d(")] }

/-- Casts that say nothing new or that clash with markup. -/
def typeAssertions : Except CatalogError Step := do
  return {
    name := "Type Assertions"
    description := "Redundant or JSX-incompatible casts"
    priority := 3
    rules := [
      ← Rule.build "Repeated as-any cast" "\\bas any(?:\\s+as any)+\\b" (.literal "as any"),
      ← Rule.build "Stacked non-null assertions" "([\\w$)\\]])!\x7b2,\x7d\\."
        (.template "$\x7b1\x7d!."),
      ← (← Rule.build "Angle-bracket assertion in TSX"
          "\\(\\s*<([A-Z][\\w$]*)>([\\w$.]+)\\s*\\)"
          (.template "($\x7b2\x7d as $\x7b1\x7d)")).restrict "**/*.tsx"] }

/-- Declarations for names that a checker reports as having no known type. -/
def missingTypes : Except CatalogError Step := do
  return {
    name := "Missing Types"
    description :=
      "Annotations for bindings the checker reports as implicitly any or unknown"
    priority := 4
    rules := [
      ← (← Rule.build "Route handler parameters" "\\(\\s*req\\s*,\\s*res\\s*\\)\\s*=>"
          (.literal "(req: Request, res: Response) =>") ["TS7006"]).restrict "**/routes/**",
      ← Rule.build "Implicit any arrow parameters"
        "\\(\\s*([A-Za-z_$][\\w$]*(?:\\s*,\\s*[A-Za-z_$][\\w$]*)*)\\s*\\)\\s*=>"
        (.computed annotateParameters) ["TS7006"],
      ← Rule.build "Untyped catch binding" "catch\\s*\\(\\s*([A-Za-z_$][\\w$]*)\\s*\\)"
        (.template "catch ($\x7b1\x7d: any)") ["TS18046", "TS2571"]] }

end Builtin

/-- The built-in catalog. -/
def builtin : Except CatalogError Catalog := do
  ofSteps [← Builtin.basicSyntax, ← Builtin.promisePatterns, ← Builtin.typeAssertions,
    ← Builtin.missingTypes]

end SourceMend.Catalog
