import SourceMend.Catalog.Builtin

/-!
# The patterns of the built-in catalog

Each pattern of the built-in catalog as the expression that its text stands for.
The texts are read here once (`readAs_builtin`), so that nothing else depends on
how patterns are written.
-/

namespace SourceMend.Catalog.Builtin

open Pattern

/-! ## Sets of characters -/

/-- The characters of names. -/
def words : CharSet := Unicode.wordChars.union (.single '$')

/-- The characters of names and dots. -/
def dottedWords : CharSet := Unicode.wordChars.union (.ofChars ['$', '.'])

/-- The characters that can end an operand. -/
def operandEnds : CharSet := Unicode.wordChars.union (.ofChars ['$', ')', ']'])

/-- The characters that names can begin with. -/
def nameStarts : CharSet := .ofRanges [(0x41, 0x5A), (0x61, 0x7A), (0x5F, 0x5F), (0x24, 0x24)]

/-- The characters that type names can begin with. -/
def typeStarts : CharSet := .range 'A' 'Z'

/-- The characters of type arguments without brackets. -/
def arguments : CharSet := (CharSet.ofChars ['<', '>', '(', ')']).complement

/-- The blanks at the end of a line. -/
def lineBlanks : CharSet := .ofChars [' ', '\t']

/-- The characters that follow the equals sign of an assignment. -/
def assigned : CharSet := (CharSet.ofChars ['=', '>']).complement

/-! ## Parts -/

/-- Any number of characters of a set. -/
def many (s : CharSet) : Expr := .rounds 0 none true (.set s)

/-- At least one character of a set. -/
def some (s : CharSet) : Expr := .rounds 1 none true (.set s)

/-- A name with these characters. -/
def name (w : CharSet) : List Expr := [.set nameStarts, many w]

/-- `Promise<...>` with at most one level of nested type arguments. -/
def promise (rest : List Expr) : Expr :=
  .chain ([.literal "Promise<".toList, many arguments,
    .rounds 0 none true (.chain [.literal ['<'], many arguments, .literal ['>'], many arguments])]
      ++ rest)

/-! ## Patterns -/

def trailingBlanksExpr : Expr := .chain [some lineBlanks, .look .anyLineEnd]

def semicolonsExpr : Expr :=
  .chain [.rounds 2 none true (.literal [';']), many lineBlanks, .look .anyLineEnd]

def optionalAssignmentExpr (w : CharSet) : Expr :=
  .chain [.group 1 (some w), .literal ['?', '.'], .group 2 (some w), .group 3 (many Unicode.blanks),
    .literal ['='], .group 4 (.set assigned)]

def promiseResolveExpr : Expr := promise [.literal ">.resolve(".toList]

def promiseStaticExpr : Expr :=
  promise [.literal ['>', '.'], .group 1 (.choice [.literal "reject".toList,
    .literal "allSettled".toList, .literal "all".toList, .literal "race".toList,
    .literal "any".toList]), .literal ['(']]

def repeatedCastExpr : Expr :=
  .chain [.look (.word .boundary Unicode.wordChars), .literal "as any".toList,
    .rounds 1 none true (.chain [some Unicode.blanks, .literal "as any".toList]),
    .look (.word .boundary Unicode.wordChars)]

def stackedBangsExpr (w : CharSet) : Expr :=
  .chain [.group 1 (.set w), .rounds 2 none true (.literal ['!']), .literal ['.']]

def angleAssertionExpr (w d : CharSet) : Expr :=
  .chain [.literal ['('], many Unicode.blanks, .literal ['<'],
    .group 1 (.chain [.set typeStarts, many w]), .literal ['>'], .group 2 (some d),
    many Unicode.blanks, .literal [')']]

def routeParametersExpr : Expr :=
  .chain [.literal ['('], many Unicode.blanks, .literal ['r', 'e', 'q'], many Unicode.blanks,
    .literal [','], many Unicode.blanks, .literal ['r', 'e', 's'], many Unicode.blanks,
    .literal [')'], many Unicode.blanks, .literal ['=', '>']]

def arrowParametersExpr (w : CharSet) : Expr :=
  .chain [.literal ['('], many Unicode.blanks,
    .group 1 (.chain (name w ++ [.rounds 0 none true
      (.chain ([many Unicode.blanks, .literal [','], many Unicode.blanks] ++ name w))])),
    many Unicode.blanks, .literal [')'], many Unicode.blanks, .literal ['=', '>']]

def catchBindingExpr (w : CharSet) : Expr :=
  .chain [.literal "catch".toList, many Unicode.blanks, .literal ['('], many Unicode.blanks,
    .group 1 (.chain (name w)), many Unicode.blanks, .literal [')']]

/-! ## Reading -/

/-- Whether a text is read as an expression without named groups. -/
abbrev ReadAs (source : String) (e : Expr) : Prop :=
  (Parsed.ofText? source.toList).toOption = .some ⟨e, []⟩

/-- The pattern of an expression without named groups. -/
def patternOf (source : String) (e : Expr) : Pattern := ⟨source, e.node, []⟩

theorem compile_eq_ok {source : String} {e : Expr} (hread : ReadAs source e)
    (hsize : e.isTooLarge = false) : compile source = .ok (patternOf source e) := by
  cases h : Parsed.ofText? source.toList with
  | error f => simp [ReadAs, h, Except.toOption] at hread
  | ok p =>
    obtain rfl : p = ⟨e, []⟩ := by simpa [ReadAs, h, Except.toOption] using hread
    simp [compile, h, hsize, bind, Except.bind, pure, Except.pure, patternOf]

theorem setSize_eq : setSize words = 49872 ∧ setSize dottedWords = 49908
    ∧ setSize operandEnds = 49944 := by decide +kernel

theorem consumes_set (s : CharSet) : (Expr.set s).consumes = true := rfl

/-! The characters of names are many ranges, so their size is put in place of it before the rest is
computed. -/

theorem isTooLarge_optionalAssignment {w : CharSet} (h : setSize w = 49872) :
    (optionalAssignmentExpr w).isTooLarge = false := by
  simp only [optionalAssignmentExpr, Expr.isTooLarge, Expr.memory, Expr.chain, some, consumes_set, h]
  decide

theorem isTooLarge_stackedBangs {w : CharSet} (h : setSize w = 49944) :
    (stackedBangsExpr w).isTooLarge = false := by
  simp only [stackedBangsExpr, Expr.isTooLarge, Expr.memory, Expr.chain, h]
  decide

theorem isTooLarge_angleAssertion {w d : CharSet} (hw : setSize w = 49872)
    (hd : setSize d = 49908) : (angleAssertionExpr w d).isTooLarge = false := by
  simp only [angleAssertionExpr, Expr.isTooLarge, Expr.memory, Expr.chain, many, some, consumes_set,
    hw, hd]
  decide

theorem isTooLarge_arrowParameters {w : CharSet} (h : setSize w = 49872) :
    (arrowParametersExpr w).isTooLarge = false := by
  simp only [arrowParametersExpr, name, Expr.isTooLarge, Expr.memory, Expr.chain, many,
    List.cons_append, List.nil_append, Expr.consumes, Expr.minLength?, Option.bind_some,
    Option.map_some, h]
  decide

theorem isTooLarge_catchBinding {w : CharSet} (h : setSize w = 49872) :
    (catchBindingExpr w).isTooLarge = false := by
  simp only [catchBindingExpr, name, Expr.isTooLarge, Expr.memory, Expr.chain, many, consumes_set, h]
  decide

/-- What the texts in the catalog are read as, step by step. -/
theorem readAs_builtin :
    (ReadAs "(?mR)[ \\t]+$" trailingBlanksExpr
      ∧ ReadAs "(?mR);\x7b2,\x7d[ \\t]*$" semicolonsExpr
      ∧ ReadAs "([\\w$]+)\\?\\.([\\w$]+)(\\s*)=([^=>])" (optionalAssignmentExpr words))
    ∧ (ReadAs (promiseType ++ "\\.resolve\\(") promiseResolveExpr
      ∧ ReadAs (promiseType ++ "\\.(reject|allSettled|all|race|any)\\(") promiseStaticExpr)
    ∧ (ReadAs "\\bas any(?:\\s+as any)+\\b" repeatedCastExpr
      ∧ ReadAs "([\\w$)\\]])!\x7b2,\x7d\\." (stackedBangsExpr operandEnds)
      ∧ ReadAs "\\(\\s*<([A-Z][\\w$]*)>([\\w$.]+)\\s*\\)"
        (angleAssertionExpr words dottedWords))
    ∧ ReadAs "\\(\\s*req\\s*,\\s*res\\s*\\)\\s*=>" routeParametersExpr
      ∧ ReadAs "\\(\\s*([A-Za-z_$][\\w$]*(?:\\s*,\\s*[A-Za-z_$][\\w$]*)*)\\s*\\)\\s*=>"
        (arrowParametersExpr words)
      ∧ ReadAs "catch\\s*\\(\\s*([A-Za-z_$][\\w$]*)\\s*\\)" (catchBindingExpr words) := by
  refine ⟨?_, ?_, ?_, ?_⟩
  · decide +kernel
  · decide +kernel
  · decide +kernel
  · decide +kernel

end SourceMend.Catalog.Builtin
