import SourceMend.Backup
import SourceMend.Discovery

/-!
# Settings of a run
-/

namespace SourceMend

/-- What a run works on and what it does. -/
structure RunConfig where
  /-- The directory or file that the run is for. -/
  target : Path
  /-- The extensions of candidates. -/
  extensions : List String := defaultExtensions
  /-- The names of directories that are not entered. -/
  excluded : List String := defaultExcluded
  /-- Whether nothing is written. -/
  dryRun : Bool := false
  /-- Whether reports list rules without fixes, and backups. -/
  verbose : Bool := false
  /-- Whether the diagnostics before and after the run are compared. -/
  verify : Bool := false
  /-- The priorities of the steps that run, all steps if there is no list. -/
  steps : Option (List Nat) := none
  /-- Whether a dry run shows differences. -/
  diff : Bool := false
  /-- The names of backups. -/
  backup : Backup.Naming := .suffix "bak"

end SourceMend
