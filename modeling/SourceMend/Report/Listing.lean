import SourceMend.Catalog
import SourceMend.Diagnostic.Summary
import SourceMend.Report

/-!
# Listings

A catalog is listed by its steps, with the file filter and the codes of every
rule.  Diagnostics are listed by their codes, the most frequent first, and one
by one if that is asked for.
-/

namespace SourceMend

namespace Catalog

/-- A rule without what it does. -/
def ruleJson (r : Rule) : Json :=
  .obj [("name", .str r.name), ("pattern", .str r.pattern.source),
    ("files", .ofOption (fun g => .str g.source) r.files), ("codes", .strs r.codes)]

/-- A step with its rules. -/
def stepJson (s : Step) : Json :=
  .obj [("priority", .num s.priority), ("name", .str s.name), ("description", .str s.description),
    ("rules", .arr (s.rules.map ruleJson))]

/-- A catalog as a JSON value. -/
def toJson (c : Catalog) : Json := .obj [("steps", .arr (c.steps.map stepJson))]

/-- The line about a rule. -/
def ruleLine (r : Rule) : String :=
  let files := match r.files with
    | some g => " [files: " ++ g.source ++ "]"
    | none => ""
  let codes := if r.isScoped then " [codes: " ++ ", ".intercalate r.codes ++ "]" else ""
  "    - " ++ r.name ++ files ++ codes

/-- The lines about a step. -/
def stepLines (color : Bool) (s : Step) : List String :=
  Text.paint color [.bold] ("[" ++ toString s.priority ++ "] " ++ s.name)
    :: (if s.description.isEmpty then [] else ["    " ++ s.description]) ++ s.rules.map ruleLine

/-- A catalog as text. -/
def human (color : Bool) (c : Catalog) : String :=
  Report.unlines (c.steps.flatMap (stepLines color))

end Catalog

namespace Diagnostic

/-- A diagnostic as an object. -/
def toJson (d : Diagnostic) : Json :=
  .obj [("file", .str d.file), ("line", .num d.line), ("column", .num d.column),
    ("code", .str d.code), ("message", .str d.message)]

/-- Diagnostics and their counts as a JSON value. -/
def listingJson (verbose : Bool) (ds : List Diagnostic) : Json :=
  let counts := (summarize ds).map fun c => Json.obj [("code", .str c.1), ("count", .num c.2)]
  .obj [("total", .num ds.length), ("by_code", .arr counts),
    ("diagnostics", if verbose then .arr (ds.map toJson) else .null)]

/-- The line about a diagnostic. -/
def listingLine (d : Diagnostic) : String :=
  d.file ++ "(" ++ toString d.line ++ "," ++ toString d.column ++ "): " ++ d.code ++ " "
    ++ d.message

/-- Diagnostics and their counts as text. -/
def listing (color verbose : Bool) (ds : List Diagnostic) : String :=
  let counts := (summarize ds).map fun c => "  " ++ Report.padded 10 c.1 ++ " " ++ toString c.2
  let total := "— Summary — diagnostics=" ++ toString ds.length
  Report.unlines
    ((if verbose then ds.map listingLine else []) ++ counts ++ [Text.paint color [.bold] total])

end Diagnostic
end SourceMend
