import SourceMend.Backup
import SourceMend.Counts

/-!
# Statistics of a run

Every file contributes statistics of its own, `ofOutcome` if it was processed
and `ofFailure` if it was not.  `merge` adds them up and `normalize` sorts what
is listed, so that the order of the files does not show.  Statistics are
*consistent* when the fixes by rule and the fixes by step both sum to the total.
-/

namespace SourceMend

/-- What came of processing one file. -/
structure Outcome where
  /-- The text before the run. -/
  before : Text
  /-- The text after the selected steps. -/
  text : Text
  /-- The fixes of each rule that ran. -/
  byRule : Counts
  /-- The fixes of each step that was not skipped. -/
  byStep : Counts

namespace Outcome

/-- Whether the steps changed the text. -/
def modified (o : Outcome) : Bool := o.text != o.before

/-- The number of fixes. -/
def fixes (o : Outcome) : Nat := o.byRule.total

end Outcome

/-- A file with what went wrong. -/
structure Failure where
  /-- The file, as shown. -/
  file : String
  /-- What went wrong. -/
  message : String
  deriving DecidableEq, Repr

/-- The change that a dry run would make to a file. -/
structure Preview where
  /-- The file, as shown. -/
  file : String
  /-- The change as a unified diff. -/
  diff : String
  deriving DecidableEq, Repr

/-- How far a cancelled run got. -/
structure Cancelled where
  /-- The files that were processed. -/
  processed : Nat
  /-- The files that were found. -/
  total : Nat
  deriving DecidableEq, Repr

/-- The statistics of some files. -/
structure Stats where
  /-- The number of files. -/
  files : Nat := 0
  /-- How many were modified. -/
  modified : Nat := 0
  /-- How many needed no change. -/
  skipped : Nat := 0
  /-- How many could not be processed. -/
  errored : Nat := 0
  /-- The number of fixes. -/
  fixes : Nat := 0
  /-- The fixes of each step. -/
  byStep : Counts := ∅
  /-- The fixes of each rule. -/
  byRule : Counts := ∅
  /-- The modified files, as shown. -/
  modifiedFiles : List String := []
  /-- The copies made before files were overwritten. -/
  backups : List Backup := []
  /-- The files that could not be processed. -/
  errors : List Failure := []
  /-- The rules that failed on a file that was processed. -/
  ruleFailures : List Failure := []
  /-- The changes that a dry run would make. -/
  previews : List Preview := []
  /-- How far the run got, if it was cancelled. -/
  cancelled : Option Cancelled := none
  deriving DecidableEq, Inhabited

namespace Stats

/-- The statistics of a file that was processed, listed as `file`. -/
def ofOutcome (o : Outcome) (file : String) : Stats :=
  { files := 1
    modified := if o.modified then 1 else 0
    skipped := if o.modified then 0 else 1
    fixes := o.fixes
    byStep := o.byStep
    byRule := o.byRule
    modifiedFiles := if o.modified then [file] else [] }

/-- The statistics of a file that could not be processed. -/
def ofFailure (file message : String) : Stats :=
  { files := 1, errored := 1, errors := [⟨file, message⟩] }

/-- The statistics of two groups of files together.  The first cancellation counts. -/
def merge (a b : Stats) : Stats :=
  { files := a.files + b.files
    modified := a.modified + b.modified
    skipped := a.skipped + b.skipped
    errored := a.errored + b.errored
    fixes := a.fixes + b.fixes
    byStep := a.byStep.merge b.byStep
    byRule := a.byRule.merge b.byRule
    modifiedFiles := a.modifiedFiles ++ b.modifiedFiles
    backups := a.backups ++ b.backups
    errors := a.errors ++ b.errors
    ruleFailures := a.ruleFailures ++ b.ruleFailures
    previews := a.previews ++ b.previews
    cancelled := a.cancelled <|> b.cancelled }

/-- Failures are ordered by file and then by message. -/
def failureLe (a b : Failure) : Bool :=
  decide (a.file < b.file) || (a.file == b.file && decide (a.message ≤ b.message))

/-- The statistics with every list sorted.  Entries that the order does not tell apart keep their
places. -/
def normalize (s : Stats) : Stats :=
  { s with
    modifiedFiles := s.modifiedFiles.mergeSort fun a b => decide (a ≤ b)
    backups := s.backups.mergeSort fun a b => a.file.le b.file
    errors := s.errors.mergeSort failureLe
    ruleFailures := s.ruleFailures.mergeSort failureLe
    previews := s.previews.mergeSort fun a b => decide (a.file ≤ b.file) }

/-- Whether the fixes by rule and by step sum to the total. -/
def consistent (s : Stats) : Bool := s.byRule.total == s.fixes && s.byStep.total == s.fixes

end Stats
end SourceMend
