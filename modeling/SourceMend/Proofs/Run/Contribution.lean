import SourceMend.Proofs.Run.Preview
import SourceMend.Proofs.Stats.Algebra

/-!
# What each file contributes to the statistics

The statistics of a run are a sum with one contribution for each candidate
(`carryOut_stats`), in whatever groups they are added up (`carryOut_stats_bracketed`).
A contribution is described in terms of the tree before the run (`Contribution`),
although the tree grows while the files are processed: when its turn comes, a
candidate is still as it was.
-/

namespace SourceMend.Run

variable {job : Job} {t t' : Tree} {p : Path} {ps : List Path} {s : Stats} {x : Stats × Tree}

/-- What a candidate may contribute to the statistics of a run. -/
inductive Contribution (job : Job) (t : Tree) (p : Path) : Stats → Prop where
  /-- The file is not readable as text. -/
  | unreadable {f : Fault} : examine job t p = .error f →
      Contribution job t p (failed (p.shown job.base) (.read p f))
  /-- The steps leave the text as it is. -/
  | unchanged {bytes : ByteArray} {progress : Progress} :
      examine job t p = .ok (bytes, progress) → progress.outcome.modified = false →
      Contribution job t p (progress.stats (p.shown job.base))
  /-- A dry run shows what would change. -/
  | previewed {bytes : ByteArray} {progress : Progress} :
      examine job t p = .ok (bytes, progress) → progress.outcome.modified = true →
      job.config.dryRun = true →
      Contribution job t p (previewed job (p.shown job.base) progress.outcome
        (progress.stats (p.shown job.base)))
  /-- The copy of the file cannot be made. -/
  | notCopied {f : Fault} {bytes : ByteArray} {progress : Progress} :
      examine job t p = .ok (bytes, progress) → progress.outcome.modified = true →
      job.config.dryRun = false →
      Contribution job t p (failed (p.shown job.base) (.backup p f))
  /-- The file is copied and gets its new text. -/
  | replaced {bytes : ByteArray} {progress : Progress} {copy : Path} :
      examine job t p = .ok (bytes, progress) → progress.outcome.modified = true →
      job.config.dryRun = false →
      Contribution job t p { progress.stats (p.shown job.base) with backups := [⟨p, copy⟩] }

/-- A file contributes the same in its turn as in a tree where the same is found out about it. -/
theorem Processed.contribution (h : Processed job t' p x)
    (hsame : examine job t' p = examine job t p) : Contribution job t p x.1 := by
  cases h with
  | unreadable hf => exact .unreadable (hsame ▸ hf)
  | unchanged hok hm => exact .unchanged (hsame ▸ hok) hm
  | previewed hok hm hdry => exact .previewed (hsame ▸ hok) hm hdry
  | notCopied hok hm hwet => exact .notCopied (hsame ▸ hok) hm hwet
  | replaced hok hm hwet _ => exact .replaced (hsame ▸ hok) hm hwet

theorem Contribution.cancelled (h : Contribution job t p s) : s.cancelled = none := by
  cases h with
  | previewed => unfold Run.previewed; split <;> rfl
  | _ => rfl

/-! ## One after another -/

/-- The statistics of each of some files that are processed one after another. -/
def contributions (job : Job) (t : Tree) : List Path → List Stats
  | [] => []
  | p :: ps => (processFile job t p).1 :: contributions job (processFile job t p).2 ps

theorem processAll_stats (job : Job) (t : Tree) (ps : List Path) :
    (processAll job t ps).1 = Stats.sum (contributions job t ps) := by
  induction ps generalizing t with
  | nil => rfl
  | cons p ps ih => simp [processAll, contributions, ih]

/-- Files that are untouched so far contribute what is described by the tree before the run. -/
theorem contributions_spec (hkeeps : t.Keeps t') (hfiles : t.DistinctFiles ps)
    (huntouched : Untouched t t' ps) :
    List.Forall₂ (Contribution job t) ps (contributions job t' ps) := by
  induction ps generalizing t' with
  | nil => exact .nil
  | cons p ps ih =>
    have hretains := (retains_processFile job t' p).keeps
    have h := processed job t' p
    obtain ⟨l, _, hl, -⟩ := hfiles.file p List.mem_cons_self
    have hsame : examine job t' p = examine job t p :=
      examine_congr hkeeps hl (huntouched p List.mem_cons_self l hl)
    have hlater : Untouched t (processFile job t' p).2 ps :=
      h.untouched hkeeps hfiles fun q hq => huntouched q (List.mem_cons_of_mem p hq)
    exact .cons (h.contribution hsame) (ih (hkeeps.trans hretains) hfiles.tail hlater)

/-! ## Whole runs -/

/-- The statistics of a run are the sum of what the candidates contribute. -/
theorem carryOut_stats (plan : Plan) (cancelled : Bool) (t : Tree) :
    (plan.carryOut cancelled t).stats = noteCancelled cancelled plan.files.length
      (Stats.sum (contributions plan.job t (plan.processed cancelled))).normalize := by
  simp only [Plan.carryOut, processAll_stats]

/-- They are what the contributions add up to in any grouping, with empty parts at any place. -/
theorem carryOut_stats_bracketed (plan : Plan) (cancelled : Bool) (t : Tree) {x : Stats.Bracketing}
    (hparts : Stats.nonempty x.parts
      = Stats.nonempty (contributions plan.job t (plan.processed cancelled))) :
    (plan.carryOut cancelled t).stats
      = noteCancelled cancelled plan.files.length x.value.normalize := by
  rw [carryOut_stats, x.value_eq_sum, ← Stats.sum_nonempty, ← hparts, Stats.sum_nonempty]

end SourceMend.Run
