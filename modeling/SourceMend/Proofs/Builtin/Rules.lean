import SourceMend.Proofs.Builtin.Patterns

/-!
# The rules of the built-in catalog

The built-in catalog as a value: four steps with the rules below (`builtin_eq`).
-/

namespace SourceMend.Catalog.Builtin

open Pattern

/-! ## Rules -/

def trailingBlanks : Rule where
  name := "Trailing whitespace"
  pattern := patternOf "(?mR)[ \\t]+$" trailingBlanksExpr
  transform := .literal ""

def semicolons : Rule where
  name := "Duplicate semicolons"
  pattern := patternOf "(?mR);\x7b2,\x7d[ \\t]*$" semicolonsExpr
  transform := .literal ";"

def optionalAssignment : Rule where
  name := "Optional chain assignment"
  pattern := patternOf "([\\w$]+)\\?\\.([\\w$]+)(\\s*)=([^=>])" (optionalAssignmentExpr words)
  transform := .template "$\x7b1\x7d!.$\x7b2\x7d$\x7b3\x7d=$\x7b4\x7d"

def promiseResolve : Rule where
  name := "Promise<T>.resolve() syntax"
  pattern := patternOf (promiseType ++ "\\.resolve\\(") promiseResolveExpr
  transform := .literal "Promise.resolve("

def promiseStatic : Rule where
  name := "Promise<T> static call syntax"
  pattern := patternOf (promiseType ++ "\\.(reject|allSettled|all|race|any)\\(") promiseStaticExpr
  transform := .template "Promise.$\x7b1\x7d("

def repeatedCast : Rule where
  name := "Repeated as-any cast"
  pattern := patternOf "\\bas any(?:\\s+as any)+\\b" repeatedCastExpr
  transform := .literal "as any"

def stackedBangs : Rule where
  name := "Stacked non-null assertions"
  pattern := patternOf "([\\w$)\\]])!\x7b2,\x7d\\." (stackedBangsExpr operandEnds)
  transform := .template "$\x7b1\x7d!."

def angleAssertion : Rule where
  name := "Angle-bracket assertion in TSX"
  pattern := patternOf "\\(\\s*<([A-Z][\\w$]*)>([\\w$.]+)\\s*\\)"
    (angleAssertionExpr words dottedWords)
  transform := .template "($\x7b2\x7d as $\x7b1\x7d)"
  files := .some ⟨"**/*.tsx", [.components, .run, .char '.', .char 't', .char 's', .char 'x']⟩

def routeParameters : Rule where
  name := "Route handler parameters"
  pattern := patternOf "\\(\\s*req\\s*,\\s*res\\s*\\)\\s*=>" routeParametersExpr
  transform := .literal "(req: Request, res: Response) =>"
  files := .some ⟨"**/routes/**", [.components, .char 'r', .char 'o', .char 'u', .char 't', .char 'e',
    .char 's', .char '/', .components]⟩
  codes := ["TS7006"]

def arrowParameters : Rule where
  name := "Implicit any arrow parameters"
  pattern := patternOf "\\(\\s*([A-Za-z_$][\\w$]*(?:\\s*,\\s*[A-Za-z_$][\\w$]*)*)\\s*\\)\\s*=>"
    (arrowParametersExpr words)
  transform := .computed annotateParameters
  codes := ["TS7006"]

def catchBinding : Rule where
  name := "Untyped catch binding"
  pattern := patternOf "catch\\s*\\(\\s*([A-Za-z_$][\\w$]*)\\s*\\)" (catchBindingExpr words)
  transform := .template "catch ($\x7b1\x7d: any)"
  codes := ["TS18046", "TS2571"]

theorem build_eq_ok {name source : String} {e : Expr} (hread : ReadAs source e)
    (hsize : e.isTooLarge = false) (transform : Transform) (codes : List String) :
    Rule.build name source transform codes
      = .ok { name, pattern := patternOf source e, transform, codes := Rule.codeSet codes } := by
  simp only [Rule.build, compile_eq_ok hread hsize]

theorem codeSet_nil : Rule.codeSet [] = [] := by simp [Rule.codeSet]

theorem codeSet_singleton (a : String) : Rule.codeSet [a] = [a] := by
  simp [Rule.codeSet, List.eraseDups_cons]

theorem codeSet_pair {a b : String} (h : a < b) : Rule.codeSet [a, b] = [a, b] := by
  have hle : [a, b].Pairwise fun x y => decide (x ≤ y) = true := by
    simpa using String.not_lt.1 (String.lt_asymm h)
  rw [Rule.codeSet, List.mergeSort_of_pairwise hle]
  simp [List.eraseDups_cons, (String.ne_of_lt h).symm]

/-! ## Steps -/

def basicSyntaxStep : Step where
  name := "Basic Syntax"
  description := "Whitespace and punctuation debris left by earlier edits"
  priority := 1
  rules := [trailingBlanks, semicolons, optionalAssignment]

def promisePatternsStep : Step where
  name := "Promise Patterns"
  description := "Generic arguments written on Promise statics instead of the call"
  priority := 2
  rules := [promiseResolve, promiseStatic]

def typeAssertionsStep : Step where
  name := "Type Assertions"
  description := "Redundant or JSX-incompatible casts"
  priority := 3
  rules := [repeatedCast, stackedBangs, angleAssertion]

def missingTypesStep : Step where
  name := "Missing Types"
  description := "Annotations for bindings the checker reports as implicitly any or unknown"
  priority := 4
  rules := [routeParameters, arrowParameters, catchBinding]

theorem basicSyntax_eq : basicSyntax = .ok basicSyntaxStep := by
  obtain ⟨⟨h₁, h₂, h₃⟩, -⟩ := readAs_builtin
  simp only [basicSyntax, build_eq_ok h₁ (by decide), build_eq_ok h₂ (by decide),
    build_eq_ok h₃ (isTooLarge_optionalAssignment setSize_eq.1), codeSet_nil]
  rfl

theorem promisePatterns_eq : promisePatterns = .ok promisePatternsStep := by
  obtain ⟨-, ⟨h₁, h₂⟩, -⟩ := readAs_builtin
  simp only [promisePatterns, build_eq_ok h₁ (by decide),
    build_eq_ok h₂ (by decide), codeSet_nil]
  rfl

theorem typeAssertions_eq : typeAssertions = .ok typeAssertionsStep := by
  obtain ⟨-, -, ⟨h₁, h₂, h₃⟩, -⟩ := readAs_builtin
  obtain ⟨hwords, hdotted, hends⟩ := setSize_eq
  simp only [typeAssertions, build_eq_ok h₁ (by decide),
    build_eq_ok h₂ (isTooLarge_stackedBangs hends),
    build_eq_ok h₃ (isTooLarge_angleAssertion hwords hdotted), codeSet_nil]
  rfl

theorem missingTypes_eq : missingTypes = .ok missingTypesStep := by
  obtain ⟨-, -, -, h₁, h₂, h₃⟩ := readAs_builtin
  simp only [missingTypes, build_eq_ok h₁ (by decide),
    build_eq_ok h₂ (isTooLarge_arrowParameters setSize_eq.1),
    build_eq_ok h₃ (isTooLarge_catchBinding setSize_eq.1), codeSet_singleton,
    codeSet_pair (show "TS18046" < "TS2571" by decide)]
  rfl

/-- The built-in steps, in ascending priority. -/
def steps : List Step :=
  [basicSyntaxStep, promisePatternsStep, typeAssertionsStep, missingTypesStep]

theorem builtin_eq : builtin = .ok ⟨steps⟩ := by
  have hsorted : steps.Pairwise fun s t => decide (s.priority ≤ t.priority) = true := by decide
  have hvalid : (blankName? steps <|> sharedName? [] [] steps <|> sharedPriority? steps) = none := by
    decide
  simp only [builtin, basicSyntax_eq, promisePatterns_eq, typeAssertions_eq, missingTypes_eq]
  change ofSteps steps = _
  simp only [ofSteps, List.mergeSort_of_pairwise hsorted, hvalid]

end SourceMend.Catalog.Builtin
