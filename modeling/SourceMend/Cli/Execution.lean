import SourceMend.Checker.Command
import SourceMend.Cli.Command
import SourceMend.Report.Listing
import SourceMend.Run
import SourceMend.Run.Verification

/-!
# Carrying out commands

`Command.execute` carries a command out on a tree.  It gives the exit code, what
is printed, and the tree afterwards.  A command that fails says why after its
notes and prints nothing else.  Its exit code is two.  A strict run whose
verification is not clean has the exit code one.  A run whose report cannot be
printed breaks off after all else is done.

How the checker is started is a part of the `Surroundings`, once for the start
before a run and once for the one after it, which need not say the same of one
tree.  The checker may change the tree, and what is done after it is done on the
tree that it leaves.
-/

namespace SourceMend.Cli

/-! ## Failures -/

/-- Why a command fails. -/
inductive Failure where
  /-- The settings cannot be used. -/
  | settings (e : SettingsError)
  /-- The catalog cannot be used. -/
  | catalog (e : CatalogError)
  /-- The checker cannot be used. -/
  | checker (e : CheckerError)
  /-- The run cannot take place. -/
  | run (e : RunError)

/-- The text of a failure. -/
def Failure.message : Failure → String
  | settings e => e.message
  | catalog e => e.message
  | checker e => e.message
  | run e => e.message

/-! ## What is printed -/

/-- What a command comes to. -/
structure Outcome where
  /-- The exit code. -/
  exit : Nat := 0
  /-- The standard output. -/
  stdout : String := ""
  /-- The standard error output. -/
  stderr : String := ""
  /-- The tree after the command. -/
  tree : Tree

/-- What commands find around them. -/
structure Surroundings where
  /-- Whether colours are wanted. -/
  color : Bool
  /-- The time, as it stands in the names of backups. -/
  stamp : String
  /-- How programs are started. -/
  launch : Launcher
  /-- How they are started once a run is over. -/
  relaunch : Launcher

namespace Surroundings

/-- A line after a coloured mark. -/
def line (s : Surroundings) (paint : Text.Paint) (mark what : String) : String :=
  Text.paint s.color [paint, .bold] mark ++ " " ++ what ++ "\n"

/-- The note that there is no settings file, unless the output is for programs. -/
def missingNote (s : Surroundings) (x : Settings) : String :=
  if x.configured || x.output == "json" then ""
  else s.line .cyan "note:" "No tsmend.toml found; using defaults."

/-- The note that nothing is written, unless the output is for programs. -/
def dryNote (s : Surroundings) (x : Settings) : String :=
  if x.dryRun && x.output != "json" then s.line .blue "info:" "Dry run: no files will be written."
  else ""

/-- The outcome of a command that fails after some notes. -/
def fail (s : Surroundings) (t : Tree) (notes : String) (f : Failure) : Outcome :=
  { exit := 2, stderr := notes ++ s.line .red "error:" f.message, tree := t }

/-- What is printed in the form that the settings ask for. -/
def render (s : Surroundings) (x : Settings) (json : Json) (human : Bool → String) : String :=
  if x.output == "json" then json.pretty ++ "\n" else human s.color

/-- What is printed of a report, unless it is to be a JSON value and there is none. -/
def report? (s : Surroundings) (x : Settings) (r : Report) : Option String :=
  if x.output == "json" then r.toJson?.map fun v => v.pretty ++ "\n" else some (r.human s.color)

end Surroundings

/-! ## Runs -/

/-- What a run needs besides its settings. -/
structure Preparation where
  /-- The catalog. -/
  catalog : Catalog
  /-- The command of the checker. -/
  command : CheckerCommand
  /-- The selected steps. -/
  steps : List Step

/-- The command of the checker of the settings. -/
def commandOf (x : Settings) : Except CheckerError CheckerCommand :=
  CheckerCommand.ofWords x.root x.command x.timeout

/-- What a run with some settings needs. -/
def prepare (t : Tree) (x : Settings) : Except Failure Preparation := do
  let catalog ← (x.loadCatalog t).mapError .catalog
  let command ← (commandOf x).mapError .checker
  let steps ← (catalog.select x.steps).mapError .catalog
  return { catalog, command, steps }

/-- The tree that a run takes place on.  If its steps or the verification need the diagnostics, that
is the tree that the checker leaves. -/
def treeBefore (s : Surroundings) (t : Tree) (x : Settings) (p : Preparation) : Tree :=
  let config := x.runConfig s.stamp
  match Run.ready p.catalog config t with
  | .ok steps => if Run.needsChecker steps config then p.command.leaves s.launch t else t
  | .error _ => t

/-- What a run comes to.  The checker is asked about the tree that is there first. -/
def startRun (s : Surroundings) (t : Tree) (x : Settings) (p : Preparation) :
    Except RunError Run.Result := do
  let config := x.runConfig s.stamp
  let checker := (p.command.checker s.launch).heldAt t
  let before := treeBefore s t x p
  let steps ← Run.ready p.catalog config t
  let plan ← Run.planFor steps (some checker) config before
  return plan.carryOut false before

/-- Whether a verification found no diagnostic. -/
def isClean : Option Verification.Status → Bool
  | some (.done v) => v.success && v.new == 0
  | _ => false

/-- The verification of a run, if the settings ask for it. -/
def verification (s : Surroundings) (x : Settings) (p : Preparation) (r : Run.Result) :
    Option Verification.Status :=
  if x.verify then
    some (.ofRun r.tree (some (p.command.checker s.relaunch)) r.baseline x.dryRun)
  else none

/-- The tree after the verification of a run, for which the checker is started once more if there
is anything to compare. -/
def treeAfter (s : Surroundings) (x : Settings) (p : Preparation) (r : Run.Result) : Tree :=
  if x.verify && !x.dryRun && r.baseline.isSome then p.command.leaves s.relaunch r.tree else r.tree

/-- The exit code of a program that breaks off. -/
def brokenOff : Nat := 101

/-- The report on a run. -/
def reportOf (s : Surroundings) (x : Settings) (p : Preparation) (r : Run.Result) : Report :=
  ⟨x.runConfig s.stamp, p.steps, r.stats, verification s x p r⟩

/-- The exit code of a run whose report is printed. -/
def exitOf (s : Surroundings) (x : Settings) (p : Preparation) (r : Run.Result) : Nat :=
  if x.strict && x.verify && !isClean (verification s x p r) then 1 else 0

/-- The outcome of a run. -/
def runOutcome (s : Surroundings) (x : Settings) (p : Preparation) (r : Run.Result) : Outcome :=
  let o : Outcome := { stderr := s.missingNote x ++ s.dryNote x, tree := treeAfter s x p r }
  match s.report? x (reportOf s x p r) with
  | some text => { o with exit := exitOf s x p r, stdout := text }
  | none => { o with exit := brokenOff }

/-- A run with some settings. -/
def executeRun (s : Surroundings) (t : Tree) (x : Settings) : Outcome :=
  match prepare t x with
  | .error f => s.fail t (s.missingNote x) f
  | .ok p =>
    match startRun s t x p with
    | .error e => s.fail (treeBefore s t x p) (s.missingNote x ++ s.dryNote x) (.run e)
    | .ok r => runOutcome s x p r

/-! ## Listings -/

/-- The listing of the steps. -/
def executeSteps (s : Surroundings) (t : Tree) (x : Settings) : Outcome :=
  match x.loadCatalog t with
  | .error e => s.fail t "" (.catalog e)
  | .ok c => { stdout := s.render x c.toJson c.human, tree := t }

/-- The listing of the diagnostics. -/
def executeCheck (s : Surroundings) (t : Tree) (x : Settings) : Outcome :=
  match commandOf x with
  | .error e => s.fail t (s.missingNote x) (.checker e)
  | .ok c =>
    match (c.checker s.launch).collect t [] with
    | .error e => s.fail (c.leaves s.launch t) (s.missingNote x) (.checker e)
    | .ok ds =>
      { stdout := s.render x (Diagnostic.listingJson x.verbose ds)
          (Diagnostic.listing · x.verbose ds)
        stderr := s.missingNote x
        tree := c.leaves s.launch t }

/-! ## Commands -/

/-- The version of the program. -/
def version : String := "0.1.0"

/-- What comes of the settings for some overrides. -/
def withSettings (s : Surroundings) (t : Tree) (o : Overrides)
    (execute : Surroundings → Tree → Settings → Outcome) : Outcome :=
  match Settings.resolve t o with
  | .error e => s.fail t "" (.settings e)
  | .ok x => execute s t x

/-- What a command comes to on a tree. -/
def Command.execute (s : Surroundings) (t : Tree) : Command → Outcome
  | version => { stdout := Cli.version ++ "\n", tree := t }
  | run o => withSettings s t o executeRun
  | steps o => withSettings s t o executeSteps
  | check o => withSettings s t o executeCheck

end SourceMend.Cli
