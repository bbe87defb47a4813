import SourceMend.Checker.Command
import SourceMend.Shell.Run

/-!
# Starting programs

A program is started in a directory, which has to exist.  A name with a slash is
the path of a file as seen from that directory, and no file of a tree is a
program.  Any other name is looked up among the installed programs.  A program
that takes as long as its limit is stopped, and a limit of zero is always
reached.
-/

namespace SourceMend

/-- The tree with a directory as its working directory. -/
def Tree.enter (t : Tree) (p : Path) : Except Fault Tree := do
  let l ← t.locate p
  match t.get? l with
  | some .directory => return { t with here := l }
  | _ => throw .notDirectory

namespace Shell

/-- Why a name cannot be started, if it is not an installed program. -/
def refusal (t : Tree) (installed : List String) (program : String) : Option Fault :=
  if program.toList.contains '/' then
    match t.locate ⟨program⟩ with
    | .ok _ => some .notExecutable
    | .error f => some f
  else if installed.contains program then none
  else some .notFound

/-- The tree as a program sees it that is started in the directory `root`. -/
def entered (t : Tree) (installed : List String) (root : Path) (program : String)
    (arguments : List String) : Except Fault Tree :=
  if root.text.bytes.contains 0 || (program :: arguments).any (·.toList.contains '\x00') then
    .error .nulInCommand
  else
    match t.enter root with
    | .error f => .error f
    | .ok t =>
      match refusal t installed program with
      | some f => .error f
      | none => .ok t

/-- How deep shells may be nested. -/
def depth : Nat := 64

/-- What a program with some arguments has done.  Only a shell can be ended by a signal. -/
def execute (t : Tree) (program : String) (arguments : List String) : Process :=
  if program = "sh" then runShell (programs depth) t .empty arguments
  else
    let start : Process := { tree := t }
    match Program.simple? t .empty program arguments with
    | some o => start.after o
    | none => start

/-- How a process came to its end that was to take less than some milliseconds. -/
def endOf (p : Process) (limit : Nat) : Checker.Ending :=
  let text (bytes : ByteArray) : Text := (Text.Utf8.decodeLossy bytes).toList
  if limit ≤ p.elapsed then .stopped
  else
    .ended ⟨if p.ending = some .signal then none else some p.status, text p.stdout, text p.stderr⟩

/-- Starting installed programs. -/
def launch : Launcher := fun t root program arguments seconds => do
  let inside ← entered t Program.installed root program arguments
  let p := execute inside program arguments
  return (endOf p (seconds * 1000), p.tree)

end Shell
end SourceMend
