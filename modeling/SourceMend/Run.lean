import SourceMend.Catalog
import SourceMend.Checker
import SourceMend.Diagnostic.Index
import SourceMend.Diff
import SourceMend.Path.Relative
import SourceMend.Run.Config
import SourceMend.Stats
import SourceMend.Text.Utf8

/-!
# Runs

A run applies the selected steps of a catalog to every candidate file.  First
the diagnostics are collected, if a scoped rule or the verification needs them.
Then the files are processed one after another: the steps run on the text of the
file, a changed file is copied to a backup and overwritten, and a dry run writes
nothing.

What can stop a run is found before any file is written.  A file that cannot be
read as text, backed up or written is counted as an error and left as it was,
and the run goes on.
-/

namespace SourceMend

/-! ## Errors -/

/-- Why a run cannot take place. -/
inductive RunError where
  /-- The target does not exist. -/
  | targetMissing (target : Path)
  /-- The checker cannot be used. -/
  | checker (e : CheckerError)
  /-- The selection names steps that do not exist. -/
  | catalog (e : CatalogError)
  deriving Repr

/-- The text of an error. -/
def RunError.message : RunError → String
  | targetMissing target => "target path does not exist: " ++ target.display
  | checker e => e.message
  | catalog e => e.message

/-- What went wrong with one file. -/
inductive FileError where
  /-- The file is not readable as text. -/
  | read (file : Path) (fault : Fault)
  /-- The copy of the file could not be made. -/
  | backup (file : Path) (fault : Fault)
  /-- The file could not be overwritten. -/
  | write (file : Path) (fault : Fault)
  deriving Repr

/-- The text of an error. -/
def FileError.message : FileError → String
  | read file fault => "read " ++ file.display ++ ": " ++ fault.message
  | backup file fault => "backup " ++ file.display ++ ": " ++ fault.message
  | write file fault => "write " ++ file.display ++ ": " ++ fault.message

namespace Run

/-! ## One file -/

/-- What the processing of every file depends on. -/
structure Job where
  /-- The selected steps. -/
  steps : List Step
  /-- The outstanding codes. -/
  index : Diagnostic.Index
  /-- The directory that paths are shown from. -/
  base : Path
  /-- The settings. -/
  config : RunConfig

/-- What has come of the steps on a file so far. -/
structure Progress where
  /-- The outcome. -/
  outcome : Outcome
  /-- The rules that failed, in order. -/
  failures : List RuleFailure

/-- Whether no rule of a step can run on a file: all of them need a code that is not there. -/
def skips (s : Step) (codes : Option (List String)) : Bool :=
  s.fullyScoped && !s.rules.any fun r => r.acceptsCodes codes

/-- What has come of the steps after one more step. -/
def advance (on : Subject) (p : Progress) (s : Step) : Progress :=
  if skips s on.codes then p
  else
    let r := s.apply on p.outcome.text
    { outcome :=
        { p.outcome with
          text := r.text
          byRule := p.outcome.byRule.merge r.counts
          byStep := p.outcome.byStep.add s.name r.total }
      failures := p.failures ++ r.failures }

/-- What comes of some steps on a text. -/
def mend (steps : List Step) (on : Subject) (text : Text) : Progress :=
  steps.foldl (advance on) ⟨⟨text, text, ∅, ∅⟩, []⟩

/-- A file as the rules of a job see it. -/
def Job.subject (job : Job) (t : Tree) (p : Path) : Subject :=
  { rel := (p.stripPrefix? job.base).getD p, full := p, codes := job.index.codesFor t p }

/-- The statistics of a file with its rule failures. -/
def Progress.stats (p : Progress) (shown : String) : Stats :=
  { Stats.ofOutcome p.outcome shown with
    ruleFailures := p.failures.map fun f => ⟨shown, f.message⟩ }

/-- A file that could not be processed. -/
def failed (shown : String) (e : FileError) : Stats := .ofFailure shown e.message

/-- The statistics of a changed file, and the tree with its backup and its new text. -/
def overwrite (job : Job) (t : Tree) (p : Path) (bytes : ByteArray) (text : Text) (shown : String)
    (s : Stats) : Stats × Tree :=
  match Backup.write t p bytes job.config.backup with
  | .error f => (failed shown (.backup p f), t)
  | .ok (b, t') =>
    match t'.write p (String.ofList text).toUTF8 with
    | .error f => (failed shown (.write p f), t')
    | .ok t'' => ({ s with backups := s.backups ++ [b] }, t'')

/-- The bytes of a file and what comes of the steps on its text. -/
def examine (job : Job) (t : Tree) (p : Path) : Except Fault (ByteArray × Progress) := do
  let bytes ← t.load p
  let before ← Text.Utf8.decode bytes
  return (bytes, mend job.steps (job.subject t p) before.toList)

/-- The statistics of a file that a dry run would change. -/
def previewed (job : Job) (shown : String) (o : Outcome) (s : Stats) : Stats :=
  if job.config.diff then
    { s with previews := s.previews ++ [⟨shown, .ofList (Diff.unified o.before o.text)⟩] }
  else s

/-- The statistics of one file, and the tree after it. -/
def processFile (job : Job) (t : Tree) (p : Path) : Stats × Tree :=
  let shown := p.shown job.base
  match examine job t p with
  | .error f => (failed shown (.read p f), t)
  | .ok (bytes, progress) =>
    let s := progress.stats shown
    let o := progress.outcome
    if !o.modified then (s, t)
    else if job.config.dryRun then (previewed job shown o s, t)
    else overwrite job t p bytes o.text shown s

/-- The statistics of some files, and the tree after all of them. -/
def processAll (job : Job) (t : Tree) : List Path → Stats × Tree
  | [] => (default, t)
  | p :: ps =>
    let (s, t') := processFile job t p
    let (r, t'') := processAll job t' ps
    (s.merge r, t'')

/-! ## All files -/

/-- The index and the number of the diagnostics before the run.  A checker that fails after it
has been started, or that is missing, leaves the index empty and the number unknown. -/
def baseline (t : Tree) (checker? : Option Checker) :
    Except CheckerError (Diagnostic.Index × Option Nat) :=
  match checker? with
  | none => .ok (.empty, none)
  | some c =>
    match c.collect t [] with
    | .ok ds => .ok (.build t c.root ds, some ds.length)
    | .error e => if e.isFatal then .error e else .ok (.empty, none)

/-- The directory that the paths of a run are shown from. -/
def baseOf (t : Tree) (target : Path) : Path :=
  if t.hasFile target then target.parent?.getD ⟨.empty⟩ else target

/-- What a run has found out before it processes any file. -/
structure Plan where
  /-- What the processing of every file depends on. -/
  job : Job
  /-- The number of diagnostics, if it is known. -/
  baseline : Option Nat
  /-- The candidates. -/
  files : List Path

/-- The steps of a run, or why it cannot take place. -/
def ready (catalog : Catalog) (config : RunConfig) (t : Tree) : Except RunError (List Step) := do
  if !t.has config.target then throw (.targetMissing config.target)
  (catalog.select config.steps).mapError .catalog

/-- Whether a run of some steps needs the diagnostics. -/
def needsChecker (steps : List Step) (config : RunConfig) : Bool :=
  steps.any Step.hasScoped || config.verify

/-- The plan of a run of some steps, or why the checker cannot be used. -/
def planFor (steps : List Step) (checker? : Option Checker) (config : RunConfig) (t : Tree) :
    Except RunError Plan := do
  let (index, before) ←
    if needsChecker steps config then (baseline t checker?).mapError .checker
    else pure (.empty, none)
  return {
    job := { steps, index, base := baseOf t config.target, config }
    baseline := before
    files := t.discover config.target config.extensions config.excluded }

/-- The plan of a run, or why it cannot take place. -/
def plan (catalog : Catalog) (checker? : Option Checker) (config : RunConfig) (t : Tree) :
    Except RunError Plan := do
  let steps ← ready catalog config t
  planFor steps checker? config t

/-- What a run comes to. -/
structure Result where
  /-- The statistics, normalized. -/
  stats : Stats
  /-- The number of diagnostics before the run, if it is known. -/
  baseline : Option Nat
  /-- The tree after the run. -/
  tree : Tree

/-- Statistics with a note of how far a cancelled run got. -/
def noteCancelled (cancelled : Bool) (found : Nat) (s : Stats) : Stats :=
  if cancelled && s.files < found then { s with cancelled := some ⟨s.files, found⟩ } else s

/-- The candidates that are processed.  When the run is cancelled before it starts, none is. -/
def Plan.processed (p : Plan) (cancelled : Bool) : List Path := if cancelled then [] else p.files

/-- What a plan comes to. -/
def Plan.carryOut (p : Plan) (cancelled : Bool) (t : Tree) : Result :=
  let (stats, after) := processAll p.job t (p.processed cancelled)
  { stats := noteCancelled cancelled p.files.length stats.normalize
    baseline := p.baseline
    tree := after }

/-- A run. -/
def run (catalog : Catalog) (checker? : Option Checker) (config : RunConfig) (cancelled : Bool)
    (t : Tree) : Except RunError Result :=
  (plan catalog checker? config t).map fun p => p.carryOut cancelled t

end Run
end SourceMend
