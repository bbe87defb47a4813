import SourceMend.Diagnostic
import SourceMend.Tree

/-!
# Checkers

A checker is an external program that prints diagnostics.  It is started in a
directory and may be given files as arguments.  What it says depends on the tree.
It either cannot be started, runs out of time, or ends with an exit code and two
texts.

`Checker.collect` gives the diagnostics of both texts, the standard output
first.  An exit code other than zero is normal when there are diagnostics, and
an error when there are none.
-/

namespace SourceMend

/-- Why there are no diagnostics. -/
inductive CheckerError where
  /-- The command names no program. -/
  | emptyCommand
  /-- The program could not be started. -/
  | start (program : String) (fault : Fault)
  /-- The program did not end within some milliseconds. -/
  | timeout (milliseconds : Nat)
  /-- The program failed without a diagnostic.  It has no exit code if a signal ended it. -/
  | unparseable (exit : Option Int)
  /-- The output could not be read. -/
  | io (fault : Fault)
  deriving DecidableEq, Repr

namespace CheckerError

/-- A number of milliseconds below a second as decimals of a second, without zeros at the end. -/
def decimals (milliseconds : Nat) : Text :=
  let ds := Text.ofNat milliseconds
  Text.dropEndWhile (· == '0') (List.replicate (3 - ds.length) '0' ++ ds)

/-- A duration in the largest of its units that is not below one. -/
def duration (milliseconds : Nat) : String :=
  if milliseconds = 0 then "0ns"
  else if milliseconds < 1000 then toString milliseconds ++ "ms"
  else
    let fraction := decimals (milliseconds % 1000)
    toString (milliseconds / 1000) ++ (if fraction.isEmpty then "" else "." ++ .ofList fraction)
      ++ "s"

/-- The text of an exit code that may be missing. -/
def exitText : Option Int → String
  | some n => "Some(" ++ toString n ++ ")"
  | none => "None"

/-- The text of an error. -/
def message : CheckerError → String
  | emptyCommand => "checker command is empty"
  | start program fault => "failed to start checker `" ++ program ++ "`: " ++ fault.message
  | timeout ms => "checker did not finish within " ++ duration ms
  | unparseable exit =>
    "checker exited with code " ++ exitText exit ++ " and produced no parseable diagnostics"
  | io fault => "checker I/O error: " ++ fault.message

/-- Whether a run must not go on after the error.  Otherwise it goes on without diagnostics. -/
def isFatal : CheckerError → Bool
  | emptyCommand => true
  | start .. => true
  | _ => false

end CheckerError

namespace Checker

/-- How a program ended and what it printed. -/
structure Output where
  /-- The exit code, none if a signal ended the program. -/
  exit : Option Int
  /-- The standard output. -/
  stdout : Text
  /-- The standard error output. -/
  stderr : Text
  deriving DecidableEq, Repr

/-- The diagnostics of both outputs. -/
def Output.diagnostics (o : Output) : Except CheckerError (List Diagnostic) :=
  let ds := Diagnostic.ofText o.stdout ++ Diagnostic.ofText o.stderr
  if o.exit ≠ some 0 ∧ ds = [] then .error (.unparseable o.exit) else .ok ds

end Checker

/-- A program that prints diagnostics. -/
structure Checker where
  /-- The directory that the program is started in. -/
  root : Path
  /-- What the program says of a tree when some files are its arguments. -/
  start : Tree → List String → Except CheckerError Checker.Output

namespace Checker

/-- The checker that says of every tree what another one says of `t`. -/
def heldAt (c : Checker) (t : Tree) : Checker := ⟨c.root, fun _ files => c.start t files⟩

/-- The diagnostics that a checker has for a tree. -/
def collect (c : Checker) (t : Tree) (files : List String) :
    Except CheckerError (List Diagnostic) := do
  let o ← c.start t files
  o.diagnostics

end Checker
end SourceMend
