import SourceMend.Proofs.Run.Zeros

/-!
# Skipping is only an optimisation

`processWith` processes a file with a given way to run the steps.  With the one that
skips the steps of which no rule can run it is `processFile` (`processFile_eq`), and with
the one that skips none it leaves the same tree and the same statistics, but for entries
with zero in the fixes of the steps (`processFile_padded`).
-/

namespace SourceMend

/-- Whether statistics are others with further entries with zero in the fixes of the steps. -/
structure Stats.Padded (a b : Stats) : Prop where
  /-- They are the same in everything else. -/
  same : b = { a with byStep := b.byStep }
  /-- The fixes of the steps have further entries with zero at most. -/
  byStep : a.byStep.Padded b.byStep

theorem Stats.Padded.refl (a : Stats) : a.Padded a := ⟨rfl, .refl _⟩

namespace Run

variable {job : Job} {t : Tree} {file : Path} {p q : Progress} {a b : Stats} {shown : String}

/-- The bytes of a file and what comes of the steps on its text when they run in a given way. -/
def examineWith (mend : List Step → Subject → Text → Progress) (job : Job) (t : Tree) (file : Path) :
    Except Fault (ByteArray × Progress) := do
  let bytes ← t.load file
  let before ← Text.Utf8.decode bytes
  return (bytes, mend job.steps (job.subject t file) before.toList)

/-- The statistics of a file, and the tree after it, from what is found out about it. -/
def conclude (job : Job) (t : Tree) (file : Path) : Except Fault (ByteArray × Progress) → Stats × Tree
  | .error f => (failed (file.shown job.base) (.read file f), t)
  | .ok (bytes, p) =>
    let shown := file.shown job.base
    if !p.outcome.modified then (p.stats shown, t)
    else if job.config.dryRun then (previewed job shown p.outcome (p.stats shown), t)
    else overwrite job t file bytes p.outcome.text shown (p.stats shown)

/-- The processing of a file when the steps run in a given way. -/
def processWith (mend : List Step → Subject → Text → Progress) (job : Job) (t : Tree) (file : Path) :
    Stats × Tree :=
  conclude job t file (examineWith mend job t file)

theorem processFile_eq (job : Job) (t : Tree) (file : Path) :
    processFile job t file = processWith mend job t file := by
  have hexamine : examine job t file = examineWith mend job t file := rfl
  rw [processFile, hexamine, processWith]
  cases examineWith mend job t file <;> rfl

/-! ## What is padded stays so -/

theorem Progress.Padded.modified (h : p.Padded q) : p.outcome.modified = q.outcome.modified :=
  h.alike.modified

theorem Progress.Padded.stats (h : p.Padded q) (shown : String) :
    (p.stats shown).Padded (q.stats shown) := by
  refine ⟨?_, h.byStep⟩
  simp only [Progress.stats, Stats.ofOutcome, h.modified, h.fixes, h.byRule, h.failures]

theorem previewed_padded (h : a.Padded b) (hp : p.Padded q) :
    (previewed job shown p.outcome a).Padded (previewed job shown q.outcome b) := by
  unfold previewed
  rw [hp.before, hp.text]
  split
  · exact ⟨by rw [h.same], h.byStep⟩
  · exact h

theorem overwrite_padded (h : a.Padded b) (bytes : ByteArray) (text : Text) :
    (overwrite job t file bytes text shown a).1.Padded (overwrite job t file bytes text shown b).1
      ∧ (overwrite job t file bytes text shown a).2 = (overwrite job t file bytes text shown b).2 := by
  unfold overwrite
  cases Backup.write t file bytes job.config.backup with
  | error f => exact ⟨.refl _, rfl⟩
  | ok x =>
    simp only
    cases x.2.write file (String.ofList text).toUTF8 with
    | error f => exact ⟨.refl _, rfl⟩
    | ok t' => exact ⟨⟨by rw [h.same], h.byStep⟩, rfl⟩

theorem conclude_padded (h : p.Padded q) (bytes : ByteArray) :
    (conclude job t file (.ok (bytes, p))).1.Padded (conclude job t file (.ok (bytes, q))).1
      ∧ (conclude job t file (.ok (bytes, p))).2 = (conclude job t file (.ok (bytes, q))).2 := by
  have hstats := h.stats (file.shown job.base)
  simp only [conclude, h.modified, h.text]
  split
  · exact ⟨hstats, rfl⟩
  · split
    · exact ⟨previewed_padded hstats h, rfl⟩
    · exact overwrite_padded hstats bytes _

/-- Running every step instead of skipping some gives the same text, fixes of rules and failures, and
the same tree and statistics, up to entries with zero in the fixes of the steps. -/
theorem processFile_padded (job : Job) (t : Tree) (file : Path) :
    (∀ text, let p := mend job.steps (job.subject t file) text
        let q := mendAlways job.steps (job.subject t file) text
        p.Padded q ∧ p.outcome.modified = q.outcome.modified ∧ p.outcome.fixes = q.outcome.fixes)
      ∧ (processFile job t file).1.Padded (processWith mendAlways job t file).1
      ∧ (processFile job t file).2 = (processWith mendAlways job t file).2 := by
  have hmend (text : Text) := padded_mend job.steps (job.subject t file) text
  refine ⟨fun text => ⟨hmend text, (hmend text).modified, (hmend text).fixes⟩, ?_⟩
  rw [processFile_eq]
  simp only [processWith, examineWith, bind, Except.bind, pure, Except.pure]
  cases t.load file with
  | error f => exact ⟨.refl _, rfl⟩
  | ok bytes =>
    simp only
    cases Text.Utf8.decode bytes with
    | error f => exact ⟨.refl _, rfl⟩
    | ok before => exact conclude_padded (hmend before.toList) bytes

end Run
end SourceMend
