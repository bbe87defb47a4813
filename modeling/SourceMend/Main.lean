import SourceMend.Cli.Execution
import SourceMend.Shell.Launch
import Std.Time.Format

/-!
# The command line

The arguments are a command with its options.  The files of the project are
named on the standard input, one a line and as seen from the working directory,
the way `find . -type f` lists them.  Only these files exist for the command, so
all names are strings.  What it changes is written back, and nothing is ever deleted.
-/

namespace SourceMend

/-! ## Files -/

/-- The tree with one more file, if it can be read. -/
def addNamed (t : Tree) (name : String) : IO Tree := do
  try return t.addFile (t.aim ⟨name⟩) (← IO.FS.readBinFile name)
  catch _ => return t

/-- The tree of the named files. -/
def loadTree (here : String) (names : List String) : IO Tree := do
  let l := Tree.empty.aim ⟨here⟩
  names.foldlM addNamed { Tree.empty.addDirectory l with here := l }

/-- Writing back what a command has changed. -/
def storeTree (before after : Tree) : IO Unit := do
  for (l, e) in after.entries do
    match e with
    | .file bytes =>
      if before.get? l ≠ some e then IO.FS.writeBinFile (Tree.pathOf l).display bytes
    | .directory => pure ()

/-! ## Commands -/

/-- How a command is asked for. -/
def usage : String := "usage: (version | run | steps | check) [OPTION ...] < FILE-NAMES"

/-- Carrying out a command. -/
def perform (c : Cli.Command) : IO UInt32 := do
  let color := (← IO.getEnv "NO_COLOR").isNone
  let stamp := (← Std.Time.PlainDateTime.now).format "uuuuMMddHHmmss"
  let names ← (← IO.getStdin).lines
  let t ← loadTree (toString (← IO.currentDir)) names.toList
  let o := c.execute ⟨color, stamp, Shell.launch, Shell.launch⟩ t
  storeTree t o.tree
  IO.print o.stdout
  IO.eprint o.stderr
  return o.exit.toUInt32

end SourceMend

/-- Carries out the command that the arguments ask for. -/
def main (arguments : List String) : IO UInt32 := do
  match SourceMend.Cli.Command.ofArguments arguments with
  | .ok c => SourceMend.perform c
  | .error e =>
    IO.eprintln SourceMend.usage
    return e.exitCode.toUInt32
