import SourceMend.Proofs.Text.Raw
import SourceMend.Report

/-!
# Reports that are JSON values

The texts of a JSON value are strings, and the paths of backups are written in
full.  So a report is a JSON value exactly if the paths of all backups are UTF-8
(`Report.isSome_toJson?_iff`).  A run that copies no file has such a report.
-/

namespace SourceMend

variable {p : Path} {b : Backup} {s : Stats}

/-- That a path is UTF-8. -/
def Path.IsText (p : Path) : Prop := ∃ s : String, p.text = s

theorem Path.isSome_toJson?_iff : p.toJson?.isSome = true ↔ p.IsText := by
  rw [toJson?, Option.isSome_map, Option.isSome_iff_exists]
  exact exists_congr fun s => RawText.toText?_eq_some_iff

theorem Backup.isSome_toJson?_iff :
    b.toJson?.isSome = true ↔ b.file.IsText ∧ b.copy.IsText := by
  rw [← Path.isSome_toJson?_iff, ← Path.isSome_toJson?_iff, toJson?]
  cases b.file.toJson? <;> cases b.copy.toJson? <;> simp

/-- All of some values can be had together exactly if each can be had. -/
theorem isSome_mapM_iff {α β : Type} {f : α → Option β} {as : List α} :
    (as.mapM f).isSome = true ↔ ∀ a ∈ as, (f a).isSome = true := by
  induction as with
  | nil => simp
  | cons a as ih =>
    rw [List.forall_mem_cons, ← ih, List.mapM_cons]
    cases f a <;> cases as.mapM f <;> simp

/-- That the paths of all backups are UTF-8. -/
def Stats.Printable (s : Stats) : Prop := ∀ b ∈ s.backups, b.file.IsText ∧ b.copy.IsText

theorem Stats.isSome_toJson?_iff : s.toJson?.isSome = true ↔ s.Printable := by
  simp only [Printable, ← Backup.isSome_toJson?_iff, ← isSome_mapM_iff]
  rw [toJson?]
  cases s.backups.mapM Backup.toJson? <;> simp

/-- A report is a JSON value exactly if the paths of the backups are UTF-8. -/
theorem Report.isSome_toJson?_iff {r : Report} :
    r.toJson?.isSome = true ↔ r.stats.Printable := by
  rw [← Stats.isSome_toJson?_iff, toJson?]
  cases r.stats.toJson? <;> simp

theorem Stats.printable_of_backups (h : s.backups = []) : s.Printable := by
  simp [Printable, h]

end SourceMend
