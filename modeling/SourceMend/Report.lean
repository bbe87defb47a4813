import SourceMend.Json
import SourceMend.Run.Config
import SourceMend.Stats
import SourceMend.Step
import SourceMend.Text.Paint
import SourceMend.Verification

/-!
# Reports of runs

A report is made from the settings, the selected steps, the statistics and the
verification of a run.  `toJson?` gives all of it as a JSON value and `human` as
lines to read.  Both show the fixes of every selected step.  The lines leave out
the rules without fixes unless the settings ask for them.

The texts of a JSON value are strings.  The target is shown lossily in either form,
but the paths of backups are not, so there is no JSON value if one of them is not
UTF-8.
-/

namespace SourceMend

/-- What a report is made from. -/
structure Report where
  /-- The settings of the run. -/
  config : RunConfig
  /-- The selected steps. -/
  steps : List Step
  /-- The statistics of the run. -/
  stats : Stats
  /-- The verification, if the run was verified. -/
  verification : Option Verification.Status

/-- A list of numbers. -/
def Json.nums (ns : List Nat) : Json := .arr (ns.map .num)

/-- Counts as an object. -/
def Counts.toJson (c : Counts) : Json := .obj (c.entries.map fun e => (e.1, .num e.2))

/-- A path as a text, if it is UTF-8. -/
def Path.toJson? (p : Path) : Option Json := p.text.toText?.map .str

/-- A backup as an object, if its paths are UTF-8. -/
def Backup.toJson? (b : Backup) : Option Json := do
  return .obj [("original_path", ← b.file.toJson?), ("backup_path", ← b.copy.toJson?)]

/-- A failure as an object. -/
def Failure.toJson (f : Failure) : Json :=
  .obj [("file", .str f.file), ("message", .str f.message)]

/-- A preview as an object. -/
def Preview.toJson (p : Preview) : Json := .obj [("file", .str p.file), ("diff", .str p.diff)]

/-- A cancellation as an object. -/
def Cancelled.toJson (c : Cancelled) : Json :=
  .obj [("processed", .num c.processed), ("total", .num c.total)]

/-- Statistics as an object, if the paths of the backups are UTF-8. -/
def Stats.toJson? (s : Stats) : Option Json := do
  let backups ← s.backups.mapM Backup.toJson?
  return .obj [("total_files", .num s.files), ("files_modified", .num s.modified),
    ("files_skipped", .num s.skipped), ("files_errored", .num s.errored),
    ("total_fixes", .num s.fixes), ("fixes_by_step", s.byStep.toJson),
    ("fixes_by_rule", s.byRule.toJson), ("modified_files", .strs s.modifiedFiles),
    ("backups", .arr backups), ("errors", .arr (s.errors.map Failure.toJson)),
    ("rule_failures", .arr (s.ruleFailures.map Failure.toJson)),
    ("previews", .arr (s.previews.map Preview.toJson)),
    ("cancelled", .ofOption Cancelled.toJson s.cancelled)]

namespace Verification

/-- The fields of a verification. -/
def fields (v : Verification) : List (String × Json) :=
  [("previous_count", .num v.previous), ("new_count", .num v.new),
    ("resolved_count", .num v.resolved), ("success", .bool v.success)]

/-- The outcome of verifying a run as an object. -/
def Status.toJson : Status → Json
  | done v => .obj (("status", .str "done") :: v.fields)
  | skipped reason => .obj [("status", .str "skipped"), ("reason", .str reason)]

end Verification

namespace Report

/-! ## JSON -/

/-- A rule with its fixes. -/
def ruleJson (s : Stats) (r : Rule) : Json :=
  .obj [("name", .str r.name), ("fixes", .num (s.byRule.get r.name))]

/-- A step with its fixes and its rules. -/
def stepJson (s : Stats) (step : Step) : Json :=
  .obj [("priority", .num step.priority), ("name", .str step.name),
    ("fixes", .num (s.byStep.get step.name)), ("rules", .arr (step.rules.map (ruleJson s)))]

/-- The settings that a report shows. -/
def configJson (c : RunConfig) : Json :=
  .obj [("path", .str c.target.display), ("dry_run", .bool c.dryRun), ("verify", .bool c.verify),
    ("include", .strs c.extensions), ("steps", .ofOption Json.nums c.steps)]

/-- A report as a JSON value, if the paths of the backups are UTF-8. -/
def toJson? (r : Report) : Option Json := do
  return .obj [("config", configJson r.config), ("steps", .arr (r.steps.map (stepJson r.stats))),
    ("stats", ← r.stats.toJson?),
    ("verification", .ofOption Verification.Status.toJson r.verification)]

/-! ## Lines -/

/-- A text with blanks added up to a width. -/
def padded (width : Nat) (s : String) : String :=
  s ++ .ofList (List.replicate (width - s.length) ' ')

/-- The lines about the settings. -/
def configLines (color : Bool) (r : Report) : List String :=
  let c := r.config
  let steps := r.steps.map fun s => toString s.priority ++ " " ++ s.name
  [Text.paint color [.bold] "Configuration",
    "  path:     " ++ c.target.display,
    "  mode:     " ++ (if c.dryRun then "dry run" else "write"),
    "  include:  " ++ ", ".intercalate c.extensions,
    "  steps:    " ++ ", ".intercalate steps,
    "  verify:   " ++ (if c.verify then "yes" else "no"),
    ""]

/-- The line about a rule. -/
def ruleLine (s : Stats) (r : Rule) : String :=
  "    " ++ padded 40 r.name ++ " " ++ toString (s.byRule.get r.name)

/-- The rules of a step that have a line. -/
def listedRules (verbose : Bool) (s : Stats) (step : Step) : List Rule :=
  step.rules.filter fun r => 0 < s.byRule.get r.name || verbose

/-- The lines about a step and its rules. -/
def stepLines (color verbose : Bool) (s : Stats) (step : Step) : List String :=
  Text.paint color [.cyan, .bold]
      ("[" ++ toString step.priority ++ "] " ++ step.name ++ ": "
        ++ toString (s.byStep.get step.name) ++ " fix(es)")
    :: (listedRules verbose s step).map (ruleLine s)

/-- The lines about the files that were or would be modified. -/
def modifiedLines (color : Bool) (r : Report) : List String :=
  let label := if r.config.dryRun then "would modify:" else "modified:"
  let files := r.stats.modifiedFiles.map fun f => Text.paint color [.green, .bold] label ++ " " ++ f
  if files.isEmpty then [] else "" :: files

/-- The lines about backups. -/
def backupLines (r : Report) : List String :=
  if r.config.verbose then r.stats.backups.map fun b => "  backup: " ++ b.copy.display else []

/-- The lines about changes that would be made. -/
def previewLines (color : Bool) (s : Stats) : List String :=
  s.previews.map fun p => Text.paint color [.cyan, .bold] "---" ++ " " ++ p.file ++ "\n" ++ p.diff

/-- A line about a failure after a mark. -/
def failureLine (mark : String) (f : Failure) : String := mark ++ " " ++ f.file ++ ": " ++ f.message

/-- The lines about failures. -/
def failureLines (color : Bool) (s : Stats) : List String :=
  s.errors.map (failureLine (Text.paint color [.red] "✖"))
    ++ s.ruleFailures.map (failureLine (Text.paint color [.yellow] "▲"))

/-- The lines about the verification. -/
def verificationLines (color : Bool) : Option Verification.Status → List String
  | none => []
  | some (.skipped reason) => ["", "Verification skipped: " ++ reason]
  | some (.done v) =>
    let line := "Verification: before=" ++ toString v.previous ++ " after=" ++ toString v.new
      ++ " resolved=" ++ toString v.resolved ++ " (" ++ (if v.success then "ok" else "regressed")
      ++ ")"
    ["", Text.paint color [if v.success then .green else .red] line]

/-- The lines that sum up the run. -/
def summaryLines (color : Bool) (r : Report) : List String :=
  let s := r.stats
  let verb := if r.config.dryRun then "would_modify" else "modified"
  let summary := "— Summary — files=" ++ toString s.files ++ " " ++ verb ++ "="
    ++ toString s.modified ++ " skipped=" ++ toString s.skipped ++ " errored="
    ++ toString s.errored ++ " fixes=" ++ toString s.fixes
  let stopped := s.cancelled.toList.map fun c =>
    "cancelled after " ++ toString c.processed ++ "/" ++ toString c.total ++ " files"
  "" :: Text.paint color [.bold] summary :: stopped

/-- The lines of a report. -/
def humanLines (color : Bool) (r : Report) : List String :=
  configLines color r ++ r.steps.flatMap (stepLines color r.config.verbose r.stats)
    ++ modifiedLines color r ++ backupLines r ++ previewLines color r.stats
    ++ failureLines color r.stats ++ verificationLines color r.verification ++ summaryLines color r

/-- Lines as one text, each with a line feed. -/
def unlines (ls : List String) : String := String.join (ls.map (· ++ "\n"))

/-- A report as text. -/
def human (color : Bool) (r : Report) : String := unlines (humanLines color r)

end Report
end SourceMend
