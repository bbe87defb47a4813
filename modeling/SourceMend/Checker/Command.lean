import SourceMend.Checker

/-!
# Checkers that are commands

A command names a program and its arguments.  How programs are started is not
known here: a `Launcher` tells what comes of a program in a directory of a tree,
and which tree it leaves.  A program may do anything to the tree, unless it
cannot be started.

`CheckerCommand.checker` is the checker of a command, which says what the program
says.  `CheckerCommand.leaves` is the tree after the program.
-/

namespace SourceMend

/-- How a program that has been started came to an end. -/
inductive Checker.Ending where
  /-- It ended in time. -/
  | ended (o : Checker.Output)
  /-- It was stopped when its time was over. -/
  | stopped
  /-- What it printed could not be read. -/
  | unread (fault : Fault)

/-- How programs are started: the tree, the directory, the name, the arguments and the seconds that
the program may take give its end and the tree that it leaves. -/
abbrev Launcher :=
  Tree → Path → String → List String → Nat → Except Fault (Checker.Ending × Tree)

/-- A program to be started, and how. -/
structure CheckerCommand where
  /-- The directory that the program is started in. -/
  root : Path
  /-- The program. -/
  program : String
  /-- The arguments. -/
  arguments : List String
  /-- The number of seconds that the program may take. -/
  seconds : Nat
  deriving DecidableEq, Repr

namespace CheckerCommand

/-- The command that some words make up. -/
def ofWords (root : Path) (words : List String) (seconds : Nat) :
    Except CheckerError CheckerCommand :=
  match words with
  | [] => .error .emptyCommand
  | program :: arguments => .ok ⟨root, program, arguments, seconds⟩

/-- What a program has said that came to its end. -/
def said (c : CheckerCommand) : Checker.Ending → Except CheckerError Checker.Output
  | .ended o => .ok o
  | .stopped => .error (.timeout (c.seconds * 1000))
  | .unread fault => .error (.io fault)

/-- What the program says when some files are added to its arguments, and the tree that it leaves.
The working directory stays the same. -/
def ask (c : CheckerCommand) (launch : Launcher) (t : Tree) (files : List String) :
    Except CheckerError Checker.Output × Tree :=
  match launch t c.root c.program (c.arguments ++ files) c.seconds with
  | .ok (e, t') => (c.said e, { t' with here := t.here })
  | .error fault => (.error (.start c.program fault), t)

/-- The checker that starts the program. -/
def checker (c : CheckerCommand) (launch : Launcher) : Checker :=
  ⟨c.root, fun t files => (c.ask launch t files).1⟩

/-- The tree that the program leaves. -/
def leaves (c : CheckerCommand) (launch : Launcher) (t : Tree) : Tree := (c.ask launch t []).2

end CheckerCommand
end SourceMend
