import SourceMend.Proofs.Builtin.Weights
import SourceMend.Proofs.Run.Zeros
import SourceMend.Proofs.Step.Fixes

/-!
# What the fixes of a file tell

The fixes of a step are added to those of a file, whether the step runs or is skipped
(`fixes_advance`, `get_byStep_advance`).  A step that changes the text adds some.  The
other direction needs fixes that do not undo each other (`fixes_tell`).  They do not in
a built-in step, and they do in a step that renames a letter and renames it back
(`swap_fixes`).
-/

namespace SourceMend.Run

/-! ## One more step -/

variable (on : Subject) (p : Progress) (s : Step)

theorem padded_advance : (advance on p s).Padded (advanceAlways on p s) :=
  (Progress.Padded.refl p).advance on s

/-- A step adds its fixes to those of the file. -/
theorem fixes_advance :
    (advance on p s).outcome.fixes = p.outcome.fixes + (s.apply on p.outcome.text).total := by
  rw [(padded_advance on p s).fixes]
  exact Counts.total_merge ..

/-- A step adds its fixes to those under its name. -/
theorem get_byStep_advance :
    (advance on p s).outcome.byStep.get s.name
      = p.outcome.byStep.get s.name + (s.apply on p.outcome.text).total := by
  rw [← (padded_advance on p s).byStep.get]
  exact (Counts.get_add ..).trans (if_pos rfl)

/-! ## What the fixes tell -/

/-- A step has fixes exactly if a rule, in its turn, replaces a match by a different text, and so it
does if it changes the text.  That it has fixes says that it changes the text if there is one fix
only, or if all of them add to the weight of the text, as in the built-in steps. -/
theorem fixes_tell (s : Step) (on : Subject) (text : Text) :
    (∀ p : Progress, p.outcome.text = text →
        (advance on p s).outcome.fixes = p.outcome.fixes + (s.apply on text).total
        ∧ (advance on p s).outcome.byStep.get s.name
          = p.outcome.byStep.get s.name + (s.apply on text).total)
      ∧ (0 < (s.apply on text).total ↔ ∃ before r after, s.rules = before ++ r :: after
        ∧ r.HasFix on ({ s with rules := before }.apply on text).text)
      ∧ ((s.apply on text).text ≠ text → 0 < (s.apply on text).total)
      ∧ ((s.apply on text).total ≤ 1 → s.Tells on text)
      ∧ ((∃ w, ∀ r ∈ s.rules, r.Gains w) → s.Tells on text)
      ∧ ∃ c, Catalog.builtin = .ok c ∧ (s ∈ c.steps → s.Tells on text) := by
  refine ⟨?_, Step.total_pos_iff, Step.total_pos_of_text_ne, Step.tells_of_total_le_one,
    fun ⟨w, hw⟩ => Step.tells_of_gains hw, _, Catalog.Builtin.builtin_eq, fun hs => ?_⟩
  · rintro p rfl
    exact ⟨fixes_advance on p s, get_byStep_advance on p s⟩
  · obtain ⟨w, hw⟩ := Catalog.Builtin.exists_gains s hs
    exact Step.tells_of_gains hw

/-- A step that renames a letter and renames it back. -/
def swap : Step where
  name := "swap"
  description := ""
  priority := 1
  rules := [
    { name := "there", pattern := ⟨"a", .take (.single 'a'), []⟩, transform := .template "b" },
    { name := "back", pattern := ⟨"b", .take (.single 'b'), []⟩, transform := .template "a" }]

/-- A file without diagnostics. -/
def plain : Subject where
  rel := ⟨"a.ts"⟩
  full := ⟨"/project/a.ts"⟩
  codes := none

/-- Only the second rule has a fix, so the text changes. -/
theorem fixes_tell_swap : (swap.apply plain "b".toList).total = 1
    ∧ (swap.apply plain "b".toList).text ≠ "b".toList := by
  have hone : (swap.apply plain "b".toList).total = 1 := by decide +kernel
  obtain ⟨-, -, -, htells, -⟩ := fixes_tell swap plain "b".toList
  exact ⟨hone, (htells hone.le).1 (hone.symm ▸ Nat.one_pos)⟩

/-- Both rules have a fix, the second undoes the first, and the file counts two fixes unmodified. -/
theorem swap_fixes : ¬swap.Tells plain "a".toList
    ∧ (mend [swap] plain "a".toList).outcome.fixes = 2
    ∧ (mend [swap] plain "a".toList).outcome.modified = false := by
  have htotal : (swap.apply plain "a".toList).total = 2 := by decide +kernel
  have htext : (swap.apply plain "a".toList).text = "a".toList := by decide +kernel
  exact ⟨fun h => h.1 (htotal.symm ▸ Nat.two_pos) htext, by decide +kernel, by decide +kernel⟩

end SourceMend.Run
