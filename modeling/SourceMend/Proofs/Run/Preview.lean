import SourceMend.Proofs.Run.File
import SourceMend.Proofs.Run.Plan

/-!
# Dry runs

A dry run tells what a run that writes would report, and writes nothing
(`run_preview`).  Both come to the sum of what each candidate contributes in the
tree before the run (`expected`).  For the run that writes this needs that no
file is changed before its turn, since every file is written once, in its own
turn, and copies go where nothing was (`withoutCopies_processAll_wet`).
-/

namespace SourceMend

/-! ## Statistics without copies -/

/-- Whether a file failed because it could not be copied. -/
def Failure.isUncopied (f : Failure) : Bool := "backup ".toList.isPrefixOf f.message.toList

namespace Stats

/-- The statistics without what only runs that write or only dry runs list. -/
def withoutCopies (s : Stats) : Stats := { s with backups := [], previews := [] }

theorem withoutCopies_merge (a b : Stats) :
    (a.merge b).withoutCopies = a.withoutCopies.merge b.withoutCopies := rfl

theorem withoutCopies_normalize (s : Stats) :
    s.normalize.withoutCopies = s.withoutCopies.normalize := by
  simp [withoutCopies, normalize]

end Stats

namespace Run

variable {job : Job} {t t₀ t' : Tree} {p : Path} {ps : List Path} {dry : Bool} {x : Stats × Tree}

theorem withoutCopies_noteCancelled (cancelled : Bool) (found : Nat) (s : Stats) :
    (noteCancelled cancelled found s).withoutCopies
      = noteCancelled cancelled found s.withoutCopies := by
  have hfiles : s.withoutCopies.files = s.files := rfl
  simp only [noteCancelled, hfiles]
  split <;> rfl

/-! ## What one file contributes -/

/-- A job that writes or does not write. -/
def Job.withDryRun (job : Job) (dry : Bool) : Job := { job with config.dryRun := dry }

theorem examine_withDryRun (job : Job) (dry : Bool) (t : Tree) (p : Path) :
    examine (job.withDryRun dry) t p = examine job t p := rfl

/-- What a file contributes to the statistics if it can be copied. -/
def expected (job : Job) (t : Tree) (p : Path) : Stats :=
  match examine job t p with
  | .error f => failed (p.shown job.base) (.read p f)
  | .ok (_, progress) => progress.stats (p.shown job.base)

theorem withoutCopies_previewed (job : Job) (shown : String) (o : Outcome) (s : Stats) :
    (previewed job shown o s).withoutCopies = s.withoutCopies := by
  unfold previewed
  split <;> rfl

theorem isUncopied_failed (shown : String) (p : Path) (f : Fault) :
    ∃ e ∈ (failed shown (.backup p f)).errors, e.isUncopied = true := by
  refine ⟨⟨shown, (FileError.backup p f).message⟩, List.mem_singleton.2 rfl, ?_⟩
  simp [Failure.isUncopied, FileError.message]

/-- With or without writing, a file contributes what is expected unless it cannot be copied. -/
theorem Processed.withoutCopies (h : Processed (job.withDryRun dry) t p x)
    (hcopied : dry = false → ∀ e ∈ x.1.errors, e.isUncopied = false) :
    x.1.withoutCopies = expected job t p := by
  cases h with
  | unreadable hf =>
    rw [examine_withDryRun] at hf
    simp only [expected, hf]
    rfl
  | unchanged hok _ =>
    rw [examine_withDryRun] at hok
    simp only [expected, hok]
    rfl
  | previewed hok _ _ =>
    rw [examine_withDryRun] at hok
    simp only [expected, hok]
    exact withoutCopies_previewed ..
  | @notCopied f _ _ _ _ hwet =>
    obtain ⟨e, he, huncopied⟩ := isUncopied_failed (p.shown (job.withDryRun dry).base) p f
    simp [hcopied hwet e he] at huncopied
  | replaced hok _ _ _ =>
    rw [examine_withDryRun] at hok
    simp only [expected, hok]
    rfl

theorem expected_congr {l : Location} (job : Job) (hkeeps : t.Keeps t') (hl : t.locate p = .ok l)
    (hget : t'.get? l = t.get? l) : expected job t' p = expected job t p := by
  simp [expected, examine_congr hkeeps hl hget]

/-! ## What all files contribute -/

/-- What some files contribute to the statistics if they can be copied. -/
def expectedAll (job : Job) (t : Tree) (ps : List Path) : Stats :=
  (ps.map (expected job t)).foldr Stats.merge default

/-- A dry run reports what is expected. -/
theorem withoutCopies_processAll_dry (job : Job) (t : Tree) (ps : List Path) :
    (processAll (job.withDryRun true) t ps).1.withoutCopies = expectedAll job t ps := by
  induction ps with
  | nil => rfl
  | cons p ps ih =>
    generalize hx : processFile (job.withDryRun true) t p = x
    have h : Processed (job.withDryRun true) t p x := hx ▸ processed _ t p
    have htree : x.2 = t := hx ▸ processFile_tree_of_dryRun rfl t p
    simp only [processAll, hx, htree, Stats.withoutCopies_merge, ih]
    rw [h.withoutCopies (by simp)]
    rfl

/-- The candidates that are still to come are as they were before the run. -/
def Untouched (t₀ t : Tree) (ps : List Path) : Prop :=
  ∀ p ∈ ps, ∀ l, t₀.locate p = .ok l → t.get? l = t₀.get? l

theorem Processed.untouched (h : Processed job t p x) (hkeeps : t₀.Keeps t)
    (hfiles : t₀.DistinctFiles (p :: ps)) (huntouched : Untouched t₀ t ps) :
    Untouched t₀ x.2 ps := by
  cases h with
  | unreadable => exact huntouched
  | unchanged => exact huntouched
  | previewed => exact huntouched
  | notCopied => exact huntouched
  | replaced _ _ _ hr =>
    intro q hq m hm
    obtain ⟨l, _, hl, -⟩ := hfiles.file p List.mem_cons_self
    obtain ⟨k, bytes, hk, hheld⟩ := hfiles.tail.file q hq
    obtain rfl := Except.ok.inj (hk.symm.trans hm)
    obtain rfl := Except.ok.inj (hr.locate.symm.trans (hkeeps.locate hl))
    rw [hr.get?_of_ne (hfiles.ne_head hq hl hk) (by simp [huntouched q hq k hk, hheld]),
      huntouched q hq k hk]

/-- A run that writes reports what is expected, unless a file cannot be copied. -/
theorem withoutCopies_processAll_wet (job : Job) (hkeeps : t₀.Keeps t) (hfiles : t₀.DistinctFiles ps)
    (huntouched : Untouched t₀ t ps)
    (hcopied : ∀ e ∈ (processAll (job.withDryRun false) t ps).1.errors, e.isUncopied = false) :
    (processAll (job.withDryRun false) t ps).1.withoutCopies = expectedAll job t₀ ps := by
  induction ps generalizing t with
  | nil => rfl
  | cons p ps ih =>
    have hretains := (retains_processFile (job.withDryRun false) t p).keeps
    simp only [processAll] at hcopied ⊢
    generalize hx : processFile (job.withDryRun false) t p = x at hcopied hretains ⊢
    have h : Processed (job.withDryRun false) t p x := hx ▸ processed _ t p
    obtain ⟨l, _, hl, -⟩ := hfiles.file p List.mem_cons_self
    have hsame := expected_congr job hkeeps hl (huntouched p List.mem_cons_self l hl)
    have hlater : Untouched t₀ x.2 ps :=
      h.untouched hkeeps hfiles fun q hq => huntouched q (List.mem_cons_of_mem p hq)
    rw [Stats.withoutCopies_merge,
      h.withoutCopies fun _ e he => hcopied e (List.mem_append_left _ he),
      ih (hkeeps.trans hretains) hfiles.tail hlater fun e he =>
        hcopied e (List.mem_append_right _ he), hsame]
    rfl

/-! ## Whole runs -/

/-- A dry run and a run that writes fail alike, or the dry run leaves the tree as it is, both find
the same diagnostics, and both report the same unless a file cannot be copied. -/
theorem run_preview (catalog : Catalog) (checker? : Option Checker) (config : RunConfig)
    (cancelled : Bool) (t : Tree) :
    match run catalog checker? { config with dryRun := true } cancelled t,
      run catalog checker? { config with dryRun := false } cancelled t with
    | .ok dry, .ok wet =>
      dry.tree = t ∧ dry.baseline = wet.baseline
        ∧ ((∀ e ∈ wet.stats.errors, e.isUncopied = false) →
          dry.stats.withoutCopies = wet.stats.withoutCopies)
    | .error e, .error e' => e = e'
    | _, _ => False := by
  simp only [run, plan_dryRun]
  cases hp : plan catalog checker? config t with
  | error e => simp [Except.map]
  | ok p =>
    simp only [Except.map]
    refine ⟨processAll_tree_of_dryRun rfl t _, rfl, fun hcopied => ?_⟩
    have hfiles := distinctFiles_of_plan hp cancelled
    obtain ⟨note, hnote⟩ := noteCancelled_eq cancelled p.files.length
      (processAll (p.job.withDryRun false) t (p.processed cancelled)).1.normalize
    have hwet := withoutCopies_processAll_wet p.job (.refl t) hfiles
      (fun _ _ _ _ => rfl) fun e he => hcopied e <| by
        change e ∈ (noteCancelled cancelled p.files.length
          (processAll (p.job.withDryRun false) t (p.processed cancelled)).1.normalize).errors
        rw [hnote]
        exact (List.mergeSort_perm _ _).mem_iff.2 he
    change (noteCancelled _ _ (processAll (p.job.withDryRun true) t _).1.normalize).withoutCopies
      = (noteCancelled _ _ (processAll (p.job.withDryRun false) t _).1.normalize).withoutCopies
    rw [withoutCopies_noteCancelled, withoutCopies_noteCancelled, Stats.withoutCopies_normalize,
      Stats.withoutCopies_normalize]
    exact congrArg _ (congrArg _ ((withoutCopies_processAll_dry p.job t _).trans hwet.symm))

end Run
end SourceMend
