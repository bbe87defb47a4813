import SourceMend.Text.Cut
import SourceMend.Text.Numeral

/-!
# Diagnostics

A diagnostic is one problem that a checker prints on a line of its own:

    file(line,column): error CODE: message

`Diagnostic.parse?` reads such a line and refuses every other.  The marker
`): error ` is looked for from the left, the opening parenthesis before it from
the right, so a path may hold parentheses and a message may hold anything.
`Diagnostic.render` writes the line.
-/

namespace SourceMend

/-- One problem reported by a checker. -/
structure Diagnostic where
  /-- The path exactly as the checker prints it. -/
  file : String
  /-- The line number, below 2³². -/
  line : Nat
  /-- The column number, below 2³². -/
  column : Nat
  /-- The category of the problem, such as `TS2339`. -/
  code : String
  /-- The rest of the line. -/
  message : String
  deriving DecidableEq, Repr, Inhabited

namespace Diagnostic

/-- What stands between the position and the code. -/
def marker : Text := "): error ".toList

/-- What stands between the code and the message. -/
def codeEnd : Text := ": ".toList

/-- A line or column number: a numeral below 2³², blanks around it ignored. -/
def coordinate? (s : Text) : Option Nat := Text.bounded Text.word32 (Text.trim s)

/-- The file, line and column of the part of a line before its marker. -/
def location? (s : Text) : Option (Text × Nat × Nat) := do
  let (file, inside) ← Text.cutLast '(' s
  guard (!file.isEmpty)
  let (l, c) ← Text.cutAt [','] inside
  let line ← coordinate? l
  let column ← coordinate? c
  return (file, line, column)

/-- The code and message of the part of a line after its marker. -/
def tagged? (s : Text) : Option (Text × Text) := do
  let (code, message) ← Text.cutAt codeEnd s
  guard (!code.isEmpty && !code.any Text.isBlank)
  return (code, message)

/-- The diagnostic that a line holds, trailing carriage returns ignored. -/
def parse? (s : Text) : Option Diagnostic := do
  let (place, rest) ← Text.cutAt marker (Text.dropEndWhile (· == '\r') s)
  let (file, line, column) ← location? place
  let (code, message) ← tagged? rest
  return { file := .ofList file, line, column, code := .ofList code, message := .ofList message }

/-- The line that reports a diagnostic. -/
def render (d : Diagnostic) : Text :=
  d.file.toList ++ '(' :: Text.ofNat d.line ++ ',' :: Text.ofNat d.column ++ marker
    ++ d.code.toList ++ codeEnd ++ d.message.toList

/-- The diagnostics among the lines of a text, in order. -/
def ofText (s : Text) : List Diagnostic := (Text.lines s).filterMap parse?

end Diagnostic
end SourceMend
