import SourceMend.Text.Numeral
import SourceMend.Text.Utf8
import SourceMend.Tree

/-!
# Processes

A process reads a tree and its input, and writes to two streams and to files.  It
takes time, which is counted in milliseconds, and only waiting takes any.  It
ends with a status or by a signal.
-/

namespace SourceMend.Shell

/-- The bytes of a text. -/
def bytesOf (s : Text) : ByteArray := (String.ofList s).toUTF8

/-- What a program has done. -/
structure Outcome where
  /-- The status that the program ended with, zero if all is well. -/
  status : Nat := 0
  /-- The standard output. -/
  stdout : ByteArray := .empty
  /-- The standard error output. -/
  stderr : ByteArray := .empty
  /-- The milliseconds that it has taken. -/
  elapsed : Nat := 0

namespace Outcome

/-- A program that fails with a message. -/
def failure (status : Nat) (program message : String) : Outcome :=
  { status, stderr := (program ++ ": " ++ message ++ "\n").toUTF8 }

/-- What two programs have done one after the other. -/
def followedBy (a b : Outcome) : Outcome :=
  { status := max a.status b.status
    stdout := a.stdout ++ b.stdout
    stderr := a.stderr ++ b.stderr
    elapsed := a.elapsed + b.elapsed }

end Outcome

/-- How programs are started: the tree, the input, the name and the arguments give what the
program does and the tree that it leaves, if there is such a program. -/
abbrev Programs := Tree → ByteArray → String → List String → Option (Outcome × Tree)

/-- How a script has come to an end. -/
inductive Ending where
  /-- By itself. -/
  | exit
  /-- By a signal. -/
  | signal
  deriving DecidableEq, Repr

/-- What a script has done so far. -/
structure Process where
  /-- The tree, with the working directory of the script. -/
  tree : Tree
  /-- The name of the script. -/
  name : String := "sh"
  /-- The arguments of the script. -/
  arguments : List String := []
  /-- The values of variables, the latest first. -/
  settings : List (String × String) := []
  /-- The standard input. -/
  input : ByteArray := .empty
  /-- The standard output. -/
  stdout : ByteArray := .empty
  /-- The standard error output. -/
  stderr : ByteArray := .empty
  /-- The status of the last command. -/
  status : Nat := 0
  /-- The milliseconds that the script has taken. -/
  elapsed : Nat := 0
  /-- How the script has ended, if it has. -/
  ending : Option Ending := none

namespace Process

/-- Whether the script goes on. -/
def running (p : Process) : Bool := p.ending.isNone

/-- The script after a command with a status. -/
def withStatus (p : Process) (n : Nat) : Process := { p with status := n }

/-- The script after a variable is set. -/
def set (p : Process) (name value : String) : Process :=
  { p with settings := (name, value) :: p.settings }

/-- The script after a program. -/
def after (p : Process) (o : Outcome) : Process :=
  { p with
    stdout := p.stdout ++ o.stdout
    stderr := p.stderr ++ o.stderr
    status := o.status
    elapsed := p.elapsed + o.elapsed }

/-- The script in a tree that another program has left. -/
def inTree (p : Process) (t : Tree) : Process := { p with tree := { t with here := p.tree.here } }

/-- The script after a message about a failure. -/
def fail (p : Process) (status : Nat) (message : String) : Process :=
  p.after (.failure status p.name message)

/-- The script as a part of itself starts, with empty streams. -/
def fresh (p : Process) : Process := { p with stdout := .empty, stderr := .empty, elapsed := 0 }

/-- The script after a part that has been carried out apart.  A signal ends both. -/
def absorb (p q : Process) : Process :=
  { (p.inTree q.tree).after ⟨q.status, q.stdout, q.stderr, q.elapsed⟩ with
    ending := q.ending.filter (· = .signal) }

/-- The script after a part that has been carried out in its place. -/
def resume (p q : Process) : Process :=
  { q with
    input := p.input
    stdout := p.stdout ++ q.stdout
    stderr := p.stderr ++ q.stderr
    elapsed := p.elapsed + q.elapsed }

/-- The number that stands for the script itself. -/
def number : String := "1"

/-- The value of a parameter that is one text. -/
def value (p : Process) (name : String) : String :=
  match name with
  | "?" => toString p.status
  | "#" => toString p.arguments.length
  | "$" => number
  | "@" => " ".intercalate p.arguments
  | "*" => " ".intercalate p.arguments
  | "0" => p.name
  | _ =>
    match Text.digits 10 name.toList with
    | some n => (p.arguments[n - 1]?).getD ""
    | none => (p.settings.lookup name).getD ""

end Process
end SourceMend.Shell
