import SourceMend.Proofs.Diagnostic.Index
import SourceMend.Proofs.Run.Effect
import SourceMend.Proofs.Run.Mend

/-!
# What a run takes from its checker

The index of a run holds the codes that are outstanding for a file (`Outstanding`,
`mem_codesFor_baseline`), and from the index the rules take only whether the
codes that they mention are there.  Jobs that agree on this (`Job.Agree`) do the
same to every file (`processAll_agree`).
-/

namespace SourceMend

namespace Run

/-! ## Outstanding codes -/

/-- Whether a checker reports a code for a file: whatever the spelling of the path in a diagnostic,
it leads to the file. -/
def Outstanding (t : Tree) (checker? : Option Checker) (p : Path) (code : String) : Prop :=
  ∃ c, checker? = some c ∧ ∃ ds, c.collect t [] = .ok ds
    ∧ ∃ d ∈ ds, (t.settled (c.root.join ⟨d.file⟩)).components = (t.settled p).components
      ∧ d.code = code

variable {t t' : Tree} {checker? : Option Checker} {p : Path} {code : String}

/-- The index that a run starts from holds the outstanding codes. -/
theorem mem_codesFor_baseline {found : Diagnostic.Index × Option Nat}
    (h : baseline t checker? = .ok found) :
    code ∈ (found.1.codesFor t p).getD [] ↔ Outstanding t checker? p code := by
  rw [Diagnostic.Index.mem_codesFor]
  unfold baseline at h
  split at h
  · cases h
    simp [Diagnostic.Index.empty, Outstanding]
  · next c =>
    split at h
    · next ds hds =>
      cases h
      simp [Diagnostic.Index.build, Outstanding, hds]
    · next e he =>
      split at h
      · cases h
      · cases h
        simp [Diagnostic.Index.empty, Outstanding, he]

/-! ## Jobs -/

/-- Jobs that differ, for some files, at most in codes that no rule mentions. -/
structure Job.Agree (t : Tree) (ps : List Path) (job job' : Job) : Prop where
  steps : job.steps = job'.steps
  base : job.base = job'.base
  dryRun : job.config.dryRun = job'.config.dryRun
  diff : job.config.diff = job'.config.diff
  backup : job.config.backup = job'.config.backup
  codes : ∀ p ∈ ps, Codes.Agree (Step.mentionedBy job.steps) (job.index.codesFor t p)
    (job'.index.codesFor t p)

variable {job job' : Job} {ps : List Path} {l : Location}

theorem Job.Agree.tail (h : job.Agree t (p :: ps) job') : job.Agree t ps job' where
  steps := h.steps
  base := h.base
  dryRun := h.dryRun
  diff := h.diff
  backup := h.backup
  codes q hq := h.codes q (List.mem_cons_of_mem p hq)

/-- The rules of both jobs see a file alike. -/
theorem Job.Agree.subject (h : job.Agree t ps job') (hp : p ∈ ps) :
    Subject.Agree (Step.mentionedBy job.steps) (job.subject t p) (job'.subject t p) where
  rel := by simp only [Job.subject, h.base]
  full := rfl
  codes := h.codes p hp

theorem examine_agree (h : job.Agree t ps job') (hp : p ∈ ps) (hkeeps : t.Keeps t')
    (hl : t.locate p = .ok l) : examine job t' p = examine job' t' p := by
  have hmend (text : Text) :
      mend job.steps (job.subject t' p) text = mend job'.steps (job'.subject t' p) text := by
    rw [subject_congr hkeeps hl, subject_congr hkeeps hl, ← h.steps]
    exact mend_congr (h.subject hp) text
  simp only [examine, hmend]

theorem processFile_agree (h : job.Agree t ps job') (hp : p ∈ ps) (hkeeps : t.Keeps t')
    (hl : t.locate p = .ok l) : processFile job t' p = processFile job' t' p := by
  have hoverwrite : overwrite job = overwrite job' := by
    unfold overwrite
    rw [h.backup]
  have hpreviewed : previewed job = previewed job' := by
    unfold previewed
    rw [h.diff]
  unfold processFile
  rw [examine_agree h hp hkeeps hl, h.base, h.dryRun, hoverwrite, hpreviewed]

/-- Jobs that agree do the same to all files. -/
theorem processAll_agree (h : job.Agree t ps job') (hfiles : t.DistinctFiles ps)
    (hkeeps : t.Keeps t') : processAll job t' ps = processAll job' t' ps := by
  induction ps generalizing t' with
  | nil => rfl
  | cons p ps ih =>
    obtain ⟨l, _, hl, -⟩ := hfiles.file p List.mem_cons_self
    have hfile := processFile_agree h List.mem_cons_self hkeeps hl
    have hretains := (retains_processFile job' t' p).keeps
    simp only [processAll, hfile, ih h.tail hfiles.tail (hkeeps.trans hretains)]

/-! ## Whole runs -/

variable {catalog : Catalog} {config : RunConfig} {cancelled : Bool} {steps : List Step}

theorem mentionedBy_eq_nil (h : steps.any Step.hasScoped = false) :
    Step.mentionedBy steps = [] := by
  simp only [Step.hasScoped, Rule.isScoped, List.any_eq_false, Bool.not_eq_true,
    Bool.not_eq_false', List.isEmpty_iff] at h
  simp only [Step.mentionedBy, Step.mentioned, List.flatMap_eq_nil_iff]
  exact h

/-- The job of a plan.  Of the mentioned codes, its index holds those that are outstanding. -/
theorem plan_job {plan : Plan} (h : Run.plan catalog checker? config t = .ok plan) :
    catalog.select config.steps = .ok plan.job.steps ∧ plan.job.base = baseOf t config.target
      ∧ ∀ p, ∀ code ∈ Step.mentionedBy plan.job.steps,
        code ∈ (plan.job.index.codesFor t p).getD [] ↔ Outstanding t checker? p code := by
  have hplanned := planned h
  refine ⟨hplanned.steps, hplanned.base, fun p code hcode => ?_⟩
  have hknown := hplanned.known
  unfold knownBefore at hknown
  split at hknown
  · exact mem_codesFor_baseline hknown
  · next hneeded =>
    rw [needsChecker, Bool.not_eq_true, Bool.or_eq_false_iff] at hneeded
    rw [mentionedBy_eq_nil hneeded.1] at hcode
    cases hcode

/-- A run takes place if its target exists, its steps exist and its checker does not stop it. -/
theorem exists_plan (hready : ready catalog config t = .ok steps)
    {found : Diagnostic.Index × Option Nat} (hfound : baseline t checker? = .ok found) :
    ∃ plan, Run.plan catalog checker? config t = .ok plan := by
  rw [plan_of_ready hready, planFor_eq, knownBefore, hfound]
  cases needsChecker steps config with
  | true => exact ⟨_, rfl⟩
  | false => exact ⟨_, rfl⟩

/-- What a run comes to, but for the number of diagnostics before it. -/
def Result.effect (r : Result) : Stats × Tree := (r.stats, r.tree)

theorem Result.eq_of_effect {r r' : Result} (heffect : r.effect = r'.effect)
    (hbaseline : r.baseline = r'.baseline) : r = r' := by
  obtain ⟨hstats, htree⟩ := Prod.mk.inj heffect
  cases r
  cases r'
  cases hstats
  cases htree
  cases hbaseline
  rfl

/-- Plans for the same files whose jobs agree on these are carried out alike. -/
theorem effect_carryOut_agree {plan plan' : Plan} (hfiles : plan.files = plan'.files)
    (h : plan.job.Agree t plan.files plan'.job) (hdistinct : t.DistinctFiles plan.files) :
    (plan.carryOut cancelled t).effect = (plan'.carryOut cancelled t).effect := by
  have hall : processAll plan.job t (plan.processed cancelled)
      = processAll plan'.job t (plan'.processed cancelled) := by
    cases cancelled with
    | true => rfl
    | false => exact (processAll_agree h hdistinct (.refl t)).trans (by rw [hfiles]; rfl)
  simp only [Plan.carryOut, Result.effect, hall, hfiles]

/-- A run takes from its checker only which of the mentioned codes are outstanding for the
candidates, whether it verifies or not.  Without a scoped rule a run that does not verify takes
nothing from its checker, which may then be missing or fail to start. -/
theorem run_checker (catalog : Catalog) (a? b? : Option Checker) (config : RunConfig)
    (cancelled : Bool) (t : Tree) :
    ((∃ found, baseline t a? = .ok found) → (∃ found, baseline t b? = .ok found) →
      (∀ steps, catalog.select config.steps = .ok steps →
        ∀ p ∈ t.discover config.target config.extensions config.excluded,
          ∀ code ∈ Step.mentionedBy steps, Outstanding t a? p code ↔ Outstanding t b? p code) →
      ∀ v w, (run catalog a? { config with verify := v } cancelled t).map Result.effect
        = (run catalog b? { config with verify := w } cancelled t).map Result.effect)
    ∧ ((∀ steps, catalog.select config.steps = .ok steps → ∀ s ∈ steps, s.hasScoped = false) →
      run catalog a? { config with verify := false } cancelled t
        = run catalog b? { config with verify := false } cancelled t) := by
  constructor
  case left =>
    intro ha hb hcodes v w
    have hready (v : Bool) :
        ready catalog { config with verify := v } t = ready catalog config t := rfl
    cases hsteps : ready catalog config t with
    | error e =>
      have hplan (v : Bool) (checker? : Option Checker) :
          Run.plan catalog checker? { config with verify := v } t = .error e :=
        plan_of_not_ready ((hready v).trans hsteps)
      simp only [run, hplan]
    | ok steps =>
      have hplans (v : Bool) {checker? : Option Checker}
          (h : ∃ found, baseline t checker? = .ok found) :
          ∃ plan, Run.plan catalog checker? { config with verify := v } t = .ok plan :=
        h.elim fun _ hfound => exists_plan ((hready v).trans hsteps) hfound
      obtain ⟨plan, hplan⟩ := hplans v ha
      obtain ⟨plan', hplan'⟩ := hplans w hb
      obtain ⟨hselect, hbase, hindex⟩ := plan_job hplan
      obtain ⟨hselect', hbase', hindex'⟩ := plan_job hplan'
      obtain ⟨hfiles, hconfig⟩ := plan_eq_ok hplan
      obtain ⟨hfiles', hconfig'⟩ := plan_eq_ok hplan'
      have hsame : plan.job.steps = plan'.job.steps := Except.ok.inj (hselect.symm.trans hselect')
      simp only [run, hplan, hplan', Except.map]
      refine congrArg Except.ok (effect_carryOut_agree (hfiles.trans hfiles'.symm) ?_ ?_)
      · constructor
        case steps => exact hsame
        case base => exact hbase.trans hbase'.symm
        case dryRun => rw [hconfig, hconfig']
        case diff => rw [hconfig, hconfig']
        case backup => rw [hconfig, hconfig']
        case codes =>
          intro p hp code hcode
          rw [hindex p code hcode, hindex' p code (hsame ▸ hcode)]
          exact hcodes _ hselect p (hfiles ▸ hp) code hcode
      · exact distinctFiles_of_plan hplan false
  case right =>
    intro hscoped
    have hplan : plan catalog a? { config with verify := false } t
        = plan catalog b? { config with verify := false } t := by
      have hready : ready catalog { config with verify := false } t = ready catalog config t := rfl
      cases hsteps : ready catalog config t with
      | error e => rw [plan_of_not_ready (hready.trans hsteps), plan_of_not_ready (hready.trans hsteps)]
      | ok steps =>
        have hany : steps.any Step.hasScoped = false := by
          simpa using hscoped steps (ready_eq_ok_iff.mp hsteps).2
        rw [plan_of_ready (hready.trans hsteps), plan_of_ready (hready.trans hsteps)]
        simp [planFor_eq, knownBefore, needsChecker, hany]
    simp only [run, hplan]

/-! ## Two checkers -/

/-- The sample step for files with one outstanding code. -/
def scopedStep : Step where
  name := "s"
  description := ""
  priority := 1
  rules := [{ name := "r", pattern := ⟨"a", .take (.single 'a'), []⟩, transform := .literal "b",
              codes := ["TS1"] }]

/-- A checker that prints the same whatever it is started on. -/
def fixedChecker (exit : Int) (stdout stderr : String) : Checker :=
  ⟨⟨"."⟩, fun _ _ => .ok ⟨some exit, stdout.toList, stderr.toList⟩⟩

/-- A code may be reported once or, under another spelling of the path and among reports for other
files, twice.  For a step without codes the checker need not start. -/
theorem run_checker_sample :
    (run ⟨[scopedStep]⟩ (some (fixedChecker 2 "a.ts(1,1): error TS1: m\n" ""))
        { target := ⟨"."⟩, verify := true } false sampleTree).map Result.effect
      = (run ⟨[scopedStep]⟩ (some (fixedChecker 1 "a.ts(1,1): warning TS2: m\n"
          "b.ts(1,1): error TS1: x\n./a.ts(7,2): error TS1: y\na.ts(8,2): error TS1: z\n"))
        { target := ⟨"."⟩, verify := false } false sampleTree).map Result.effect
    ∧ run ⟨[sampleStep]⟩ (some ⟨⟨"."⟩, fun _ _ => .error .emptyCommand⟩) { target := ⟨"."⟩ } false
        sampleTree
      = run ⟨[sampleStep]⟩ none { target := ⟨"."⟩ } false sampleTree := by
  refine ⟨(run_checker _ _ _ { target := ⟨"."⟩ } false _).1 ⟨_, rfl⟩ ⟨_, rfl⟩ ?_ true false,
    (run_checker _ _ _ { target := ⟨"."⟩ } false _).2 ?_⟩
  case refine_2 =>
    intro steps hsteps
    obtain rfl : [sampleStep] = steps := Except.ok.inj hsteps
    simp [Step.hasScoped, Rule.isScoped, sampleStep]
  intro steps hsteps p hp code hcode
  obtain rfl : [scopedStep] = steps := Except.ok.inj hsteps
  have hfiles : sampleTree.discover ⟨"."⟩ defaultExtensions defaultExcluded = [⟨"./a.ts"⟩] := by
    decide +kernel
  obtain rfl := List.mem_singleton.1 (hfiles ▸ hp)
  obtain rfl : code = "TS1" := List.mem_singleton.1 hcode
  refine iff_of_true ⟨_, rfl, _, rfl, ⟨"a.ts", 1, 1, "TS1", "m"⟩, ?_⟩
    ⟨_, rfl, _, rfl, ⟨"./a.ts", 7, 2, "TS1", "y"⟩, ?_⟩ <;> decide +kernel

end Run
end SourceMend
