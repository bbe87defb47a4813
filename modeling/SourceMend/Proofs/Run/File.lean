import SourceMend.Proofs.Tree.Replacement
import SourceMend.Run

/-!
# What a run does to one file

`processFile` either leaves the tree as it is or replaces the file after copying
it (`processed`).  What it finds out about a file depends on the bytes of
this file and on where its path leads, and on nothing else in the tree
(`examine_congr`).
-/

namespace SourceMend.Run

/-- The bytes of the text that the steps leave. -/
def Progress.newBytes (p : Progress) : ByteArray := (String.ofList p.outcome.text).toUTF8

variable {job : Job} {t t' : Tree} {p : Path} {l : Location} {bytes : ByteArray}
  {progress : Progress}

theorem examine_eq_ok (h : examine job t p = .ok (bytes, progress)) :
    t.load p = .ok bytes ∧ ∃ before, Text.Utf8.decode bytes = .ok before
      ∧ progress = mend job.steps (job.subject t p) before.toList := by
  simp only [examine, bind, Except.bind] at h
  split at h
  · cases h
  · next b hload =>
    split at h
    · cases h
    · next before hdecode =>
      cases h
      exact ⟨hload, before, hdecode, rfl⟩

/-- The rules see a file alike in two trees where its path leads to the same place. -/
theorem subject_congr (hkeeps : t.Keeps t') (hl : t.locate p = .ok l) :
    job.subject t' p = job.subject t p := by
  have hsettled : t'.settled p = t.settled p := by simp [Tree.settled, hkeeps.canonical? hl]
  unfold Job.subject Diagnostic.Index.codesFor
  rw [hsettled]

/-- What is found out about a file is the same in two trees that agree on it. -/
theorem examine_congr (hkeeps : t.Keeps t') (hl : t.locate p = .ok l)
    (hget : t'.get? l = t.get? l) : examine job t' p = examine job t p := by
  have hread : t'.read p = t.read p := Tree.read_congr hl (hkeeps.locate hl) hget
  simp [examine, Tree.load, hread, subject_congr hkeeps hl]

/-- A file of which a copy can be made is overwritten. -/
theorem overwrite_of_write {copy : Path} {c : Location} (text : Text) (shown : String) (s : Stats)
    (hpermit : Tree.permit p = .ok ()) (hl : t.locate p = .ok l)
    (hfile : t.get? l = some (.file bytes))
    (hc : t.locateNew copy = .ok c) (hfree : t.get? c = none)
    (hw : Backup.write t p bytes job.config.backup = .ok (⟨p, copy⟩, t.put c (.file bytes))) :
    ∃ t', t.Replaces p copy bytes (String.ofList text).toUTF8 l c t'
      ∧ overwrite job t p bytes text shown s
        = ({ s with backups := s.backups ++ [⟨p, copy⟩] }, t') := by
  have hr : t.Replaces p copy bytes (String.ofList text).toUTF8 l c
      ((t.put c (.file bytes)).put l (.file (String.ofList text).toUTF8)) :=
    ⟨hl, hfile, hc, hfree, rfl⟩
  have hlocate := (Tree.keeps_put_file hr.fits_copy).locate hl
  have hwrite := Tree.write_of_locateNew (String.ofList text).toUTF8 hpermit
    (Tree.locateNew_of_locate hlocate hr.get?_copied) (by simp [hr.get?_copied])
  refine ⟨_, hr, ?_⟩
  unfold overwrite
  rw [hw]
  simp only [hwrite]

/-- A file that can be examined is overwritten, unless no copy of it can be made. -/
theorem overwrite_cases (job : Job) (text : Text) (shown : String) (s : Stats)
    (hload : t.load p = .ok bytes) :
    (∃ f, overwrite job t p bytes text shown s = (failed shown (.backup p f), t))
      ∨ ∃ copy l c t', t.Replaces p copy bytes (String.ofList text).toUTF8 l c t'
        ∧ overwrite job t p bytes text shown s
          = ({ s with backups := s.backups ++ [⟨p, copy⟩] }, t') := by
  obtain ⟨hpermit, hread⟩ := Tree.load_eq_ok.1 hload
  obtain ⟨l, hl, hfile⟩ := Tree.read_eq_ok.1 hread
  cases hw : Backup.write t p bytes job.config.backup with
  | error f => exact .inl ⟨f, by unfold overwrite; rw [hw]⟩
  | ok x =>
    obtain ⟨⟨file, copy⟩, t₁⟩ := x
    obtain ⟨rfl, c, hc, hfree, rfl⟩ := Backup.write_eq_ok hw
    exact .inr ⟨copy, l, c, overwrite_of_write text shown s hpermit hl hfile hc hfree hw⟩

/-- What becomes of one file. -/
inductive Processed (job : Job) (t : Tree) (p : Path) : Stats × Tree → Prop where
  /-- The file is not readable as text. -/
  | unreadable {f : Fault} : examine job t p = .error f →
      Processed job t p (failed (p.shown job.base) (.read p f), t)
  /-- The steps leave the text as it is. -/
  | unchanged {bytes : ByteArray} {progress : Progress} :
      examine job t p = .ok (bytes, progress) → progress.outcome.modified = false →
      Processed job t p (progress.stats (p.shown job.base), t)
  /-- A dry run shows what would change. -/
  | previewed {bytes : ByteArray} {progress : Progress} :
      examine job t p = .ok (bytes, progress) → progress.outcome.modified = true →
      job.config.dryRun = true →
      Processed job t p (previewed job (p.shown job.base) progress.outcome
        (progress.stats (p.shown job.base)), t)
  /-- The copy of the file cannot be made. -/
  | notCopied {f : Fault} {bytes : ByteArray} {progress : Progress} :
      examine job t p = .ok (bytes, progress) → progress.outcome.modified = true →
      job.config.dryRun = false →
      Processed job t p (failed (p.shown job.base) (.backup p f), t)
  /-- The file is copied and gets its new text. -/
  | replaced {bytes : ByteArray} {progress : Progress} {copy : Path} {l c : Location}
      {t' : Tree} :
      examine job t p = .ok (bytes, progress) → progress.outcome.modified = true →
      job.config.dryRun = false → t.Replaces p copy bytes progress.newBytes l c t' →
      Processed job t p
        ({ progress.stats (p.shown job.base) with backups := [⟨p, copy⟩] }, t')

theorem processed (job : Job) (t : Tree) (p : Path) : Processed job t p (processFile job t p) := by
  unfold processFile
  split
  · next f h => exact .unreadable h
  · next bytes progress h =>
    by_cases hm : progress.outcome.modified = true
    · by_cases hd : job.config.dryRun = true
      · simpa [hm, hd] using Processed.previewed h hm hd
      · have hd : job.config.dryRun = false := Bool.eq_false_iff.2 hd
        simp only [hm, hd, Bool.not_true, Bool.false_eq_true, if_false]
        rcases overwrite_cases job progress.outcome.text (p.shown job.base)
          (progress.stats (p.shown job.base)) (examine_eq_ok h).1
          with ⟨f, hf⟩ | ⟨copy, l, c, t', hr, heq⟩
        · rw [hf]
          exact .notCopied h hm hd
        · rw [heq]
          exact .replaced h hm hd hr
    · have hm : progress.outcome.modified = false := Bool.eq_false_iff.2 hm
      simpa [hm] using Processed.unchanged h hm

/-- No content is lost when one file is processed. -/
theorem retains_processFile (job : Job) (t : Tree) (p : Path) :
    t.Retains (processFile job t p).2 := by
  generalize hx : processFile job t p = x
  have h : Processed job t p x := hx ▸ processed job t p
  cases h with
  | unreadable => exact .refl t
  | unchanged => exact .refl t
  | previewed => exact .refl t
  | notCopied => exact .refl t
  | replaced _ _ _ hr => exact hr.retains

/-- No content is lost when files are processed, whatever they are and in whatever order. -/
theorem retains_processAll (job : Job) (t : Tree) (ps : List Path) :
    t.Retains (processAll job t ps).2 := by
  induction ps generalizing t with
  | nil => exact .refl t
  | cons p ps ih => exact (retains_processFile job t p).trans (ih _)

/-- A dry run leaves the tree as it is. -/
theorem processFile_tree_of_dryRun (hdry : job.config.dryRun = true) (t : Tree) (p : Path) :
    (processFile job t p).2 = t := by
  generalize hx : processFile job t p = x
  have h : Processed job t p x := hx ▸ processed job t p
  cases h with
  | unreadable => rfl
  | unchanged => rfl
  | previewed => rfl
  | notCopied => rfl
  | replaced _ _ hwet _ => simp [hdry] at hwet

theorem processAll_tree_of_dryRun (hdry : job.config.dryRun = true) (t : Tree) (ps : List Path) :
    (processAll job t ps).2 = t := by
  induction ps generalizing t with
  | nil => rfl
  | cons p ps ih =>
    simp only [processAll]
    rw [processFile_tree_of_dryRun hdry]
    exact ih t

end SourceMend.Run
