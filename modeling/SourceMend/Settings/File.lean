import SourceMend.Toml
import SourceMend.Tree
import SourceMend.Yaml

/-!
# Settings files

A settings file stands in a directory as `tsmend.toml`, `tsmend.yaml` or
`tsmend.yml`, and the first of these counts.  Every setting in it is optional.  A
file that is there but cannot be read is an error.
-/

namespace SourceMend

/-- Why settings could not be read. -/
inductive SettingsError where
  /-- The file at a path could not be read. -/
  | read (path : Path) (fault : Fault)
  /-- The file at a path does not hold settings. -/
  | parse (path : Path) (reason : String)
  deriving DecidableEq, Repr

/-- The text of an error. -/
def SettingsError.message : SettingsError → String
  | read path fault => "failed to read config " ++ path.display ++ ": " ++ fault.message
  | parse path reason => "config " ++ path.display ++ " is not valid: " ++ reason

/-- The settings of a file, each of which may be missing. -/
structure FileSettings where
  /-- The target of runs, as seen from the directory of the file. -/
  path : Option String := none
  /-- The extensions of candidates. -/
  extensions : Option (List String) := none
  /-- The names of directories that are not entered. -/
  excluded : Option (List String) := none
  /-- Whether nothing is written. -/
  dryRun : Option Bool := none
  /-- Whether reports say more. -/
  verbose : Option Bool := none
  /-- Whether runs are verified. -/
  verify : Option Bool := none
  /-- Whether diagnostics that remain are a failure. -/
  strict : Option Bool := none
  /-- Whether dry runs show differences. -/
  diff : Option Bool := none
  /-- The priorities of the steps that run. -/
  steps : Option (List Nat) := none
  /-- The number of files that are processed at a time. -/
  jobs : Option Nat := none
  /-- The form of reports. -/
  output : Option String := none
  /-- The catalog file, as seen from the directory of the file. -/
  catalog : Option String := none
  /-- The suffix of backups. -/
  suffix : Option String := none
  /-- The checker with its arguments. -/
  command : Option (List String) := none
  /-- The number of seconds that the checker may take. -/
  timeout : Option Nat := none
  deriving DecidableEq, Repr

namespace FileSettings

section Reading

open Readable

variable {V : Type} [Readable V]

/-- The suffix in the settings for backups. -/
def readBackup (v : V) : Reading (Option String) := do
  optional (← fields ["suffix"] 1 v) "suffix" text

/-- The command and the time limit in the settings for the checker. -/
def readChecker (v : V) : Reading (Option (List String) × Option Nat) := do
  let fs ← fields ["command", "timeout_secs"] 2 v
  return (← optional fs "command" (list text), ← optional fs "timeout_secs" (nat Text.word64))

/-- The names of all settings. -/
def names : List String :=
  ["path", "include", "exclude_dirs", "dry_run", "verbose", "verify", "strict", "diff", "steps",
    "jobs", "output", "catalog", "backup", "checker"]

/-- The settings that a value holds. -/
def read (v : V) : Reading FileSettings := do
  let fs ← fields names names.length v
  let checker ← optional fs "checker" readChecker
  return {
    path := ← optional fs "path" text
    extensions := ← optional fs "include" (list text)
    excluded := ← optional fs "exclude_dirs" (list text)
    dryRun := ← optional fs "dry_run" bool
    verbose := ← optional fs "verbose" bool
    verify := ← optional fs "verify" bool
    strict := ← optional fs "strict" bool
    diff := ← optional fs "diff" bool
    steps := ← optional fs "steps" (list (nat Text.word32))
    jobs := ← optional fs "jobs" (nat Text.word64)
    output := ← optional fs "output" text
    catalog := ← optional fs "catalog" text
    suffix := (← optional fs "backup" readBackup).join
    command := checker.bind (·.1)
    timeout := checker.bind (·.2) }

end Reading

/-- The settings in a text, in the format that the name of its file tells. -/
def ofText? (p : Path) (s : String) : Except String FileSettings :=
  if p.extension? = some "toml" then do read (Toml.table .header (← Toml.ofText? s.toList))
  else do read (← Yaml.ofText? s.toList)

/-- The names of settings files, the first of which counts. -/
def fileNames : List String := ["tsmend.toml", "tsmend.yaml", "tsmend.yml"]

/-- The settings file of a directory. -/
def file? (t : Tree) (root : Path) : Option Path :=
  (fileNames.map fun n : String => root.child n).find? t.has

/-- The settings of a directory, if it has a settings file. -/
def load (t : Tree) (root : Path) : Except SettingsError (Option FileSettings) :=
  match file? t root with
  | none => .ok none
  | some p =>
    match t.readText p with
    | .error f => .error (.read p f)
    | .ok s => ((ofText? p s).map some).mapError (.parse p)

end FileSettings
end SourceMend
