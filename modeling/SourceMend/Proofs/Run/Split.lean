import SourceMend.Proofs.Catalog.Selection
import SourceMend.Proofs.Run.Contents

/-!
# Runs in two parts

A run of some steps can be cut at a priority: a run of the steps up to there and
then a run of those after it leave of every candidate what one run of all of them
leaves (`run_split`).  The second run finds the tree that the first one leaves, so
it reads and decodes anew what one run carries along.  It also finds the backups
of the first run.  These may be candidates, but the candidates of the first run
are candidates again.
-/

namespace SourceMend

/-- The settings of a run of the selected steps whose priority satisfies `q`, with names of its own
for backups. -/
def RunConfig.part (config : RunConfig) (catalog : Catalog) (q : Nat → Bool)
    (naming : Backup.Naming) : RunConfig :=
  { config with steps := some ((catalog.selected config.steps).filter q), backup := naming }

namespace Run

variable {given steps steps' : List Step} {catalog : Catalog} {a? b? checker? : Option Checker}
  {config : RunConfig} {t u : Tree} {r : Result} {p target : Path} {on on' : Subject}

/-- Rules see a candidate alike in two trees where the same of their codes are outstanding. -/
theorem View.agree (h : View t a? target p steps on) (h' : View u b? target p steps' on')
    (hbase : baseOf t target = baseOf u target) (hsub : steps' ⊆ steps)
    (hcodes : ∀ code ∈ Step.mentionedBy steps,
      Outstanding t a? p code ↔ Outstanding u b? p code) :
    Subject.Agree (Step.mentionedBy steps') on on' where
  rel := by rw [h.rel, h'.rel, hbase]
  full := by rw [h.full, h'.full]
  codes code hcode := by
    obtain ⟨s, hs, hmentioned⟩ := List.mem_flatMap.1 hcode
    have hcode' : code ∈ Step.mentionedBy steps := List.mem_flatMap.2 ⟨s, hsub hs, hmentioned⟩
    rw [h.codes code hcode', hcodes code hcode', h'.codes code hcode]

/-! ## Parts of a run -/

theorem has_of_run (h : run catalog checker? config false t = .ok r) :
    t.has config.target = true := by
  obtain ⟨plan, hplan, -⟩ := run_eq_ok h
  obtain ⟨steps, hready⟩ := exists_ready_of_plan hplan
  exact (ready_eq_ok_iff.mp hready).1

theorem keeps_of_run (h : run catalog checker? config false t = .ok r) : t.Keeps r.tree := by
  obtain ⟨plan, -, rfl⟩ := run_eq_ok h
  exact (retains_processAll plan.job t _).keeps

theorem select_of_run (h : run catalog checker? config false t = .ok r) :
    ∃ steps, catalog.select config.steps = .ok steps := by
  obtain ⟨plan, hplan, -⟩ := run_eq_ok h
  exact ⟨plan.job.steps, (plan_job hplan).1⟩

/-- A part of a run takes place if the target is there and the checker does not stop it. -/
theorem exists_run_part (hselect : catalog.select config.steps = .ok steps)
    (htarget : t.has config.target = true) (hfound : ∃ found, baseline t checker? = .ok found)
    (q : Nat → Bool) (naming : Backup.Naming) :
    ∃ r, run catalog checker? (config.part catalog q naming) false t = .ok r := by
  obtain ⟨found, hfound⟩ := hfound
  have hpart : ∃ plan, Run.plan catalog checker? (config.part catalog q naming) t = .ok plan :=
    exists_plan (ready_eq_ok_iff.mpr ⟨htarget, Catalog.select_filter hselect q⟩) hfound
  obtain ⟨plan, hplan⟩ := hpart
  exact ⟨plan.carryOut false t, by rw [run, hplan]; rfl⟩

/-- A run can be cut at a priority.  If its two parts see the same of the mentioned codes of a
candidate as the run does, they leave of it what the run leaves, unless a file cannot be copied. -/
theorem run_split (hcatalog : Catalog.ofSteps given = .ok catalog) (hwet : config.dryRun = false)
    (h : run catalog a? config false t = .ok r) (b? c? : Option Checker) (k : Nat)
    (naming naming' : Backup.Naming) :
    ((∃ found, baseline t b? = .ok found) →
      ∃ r₁, run catalog b? (config.part catalog (· ≤ k) naming) false t = .ok r₁)
    ∧ ∀ r₁, run catalog b? (config.part catalog (· ≤ k) naming) false t = .ok r₁ →
      ((∃ found, baseline r₁.tree c? = .ok found) →
        ∃ r₂, run catalog c? (config.part catalog (k < ·) naming') false r₁.tree = .ok r₂)
      ∧ ∀ r₂, run catalog c? (config.part catalog (k < ·) naming') false r₁.tree = .ok r₂ →
        (∀ x ∈ [r, r₁, r₂], ∀ e ∈ x.stats.errors, e.isUncopied = false) →
        ∀ p ∈ t.discover config.target config.extensions config.excluded,
          (∀ steps, catalog.select config.steps = .ok steps → ∀ code ∈ Step.mentionedBy steps,
            (Outstanding t a? p code ↔ Outstanding t b? p code)
              ∧ (Outstanding t a? p code ↔ Outstanding r₁.tree c? p code)) →
          ∃ bytes, r.tree.read p = .ok bytes ∧ r₂.tree.read p = .ok bytes := by
  obtain ⟨steps, hselect⟩ := select_of_run h
  have htarget := has_of_run h
  refine ⟨fun hfound => exists_run_part hselect htarget hfound _ naming, fun r₁ h₁ => ?_⟩
  have hkeeps := keeps_of_run h₁
  refine ⟨fun hfound => exists_run_part hselect (hkeeps.has htarget) hfound _ naming',
    fun r₂ h₂ herrors p hp hcodes => ?_⟩
  obtain ⟨herr, herr₁, herr₂⟩ : (∀ e ∈ r.stats.errors, e.isUncopied = false)
      ∧ (∀ e ∈ r₁.stats.errors, e.isUncopied = false)
      ∧ ∀ e ∈ r₂.stats.errors, e.isUncopied = false := by simpa using herrors
  have hp₁ := Tree.mem_discover_of_keeps hkeeps hp
  obtain ⟨l, bytes, hl, hfile⟩ := Tree.exists_of_mem_discover hp
  have hread := Tree.read_eq_ok.2 ⟨l, hl, hfile⟩
  obtain ⟨all, on, hall, hview, hafter⟩ := read_run h hwet hp herr hread
  obtain ⟨low, on₁, hlow, hview₁, hafter₁⟩ := read_run h₁ hwet hp herr₁ hread
  obtain ⟨high, on₂, hhigh, hview₂, hafter₂⟩ := read_run h₂ hwet hp₁ herr₂ hafter₁
  obtain rfl := Except.ok.inj ((Catalog.select_filter hall (· ≤ k)).symm.trans hlow)
  obtain rfl := Except.ok.inj ((Catalog.select_filter hall (k < ·)).symm.trans hhigh)
  have hagree₁ := hview.agree hview₁ rfl (List.filter_subset_self all) fun code hcode =>
    (hcodes all hall code hcode).1
  have hagree₂ := hview.agree hview₂ (baseOf_congr hp hp₁) (List.filter_subset_self all)
    fun code hcode => (hcodes all hall code hcode).2
  have hascending : (all.map Step.priority).Pairwise (· < ·) :=
    (Catalog.ascending_of_ofSteps hcatalog).sublist
      ((Catalog.sublist_of_select hall).map Step.priority)
  refine ⟨_, hafter, hafter₂.trans (congrArg Except.ok ?_)⟩
  calc bytesAfter on₂ (all.filter fun s => k < s.priority)
        (bytesAfter on₁ (all.filter fun s => s.priority ≤ k) bytes)
      = bytesAfter on (all.filter fun s => k < s.priority)
          (bytesAfter on (all.filter fun s => s.priority ≤ k) bytes) := by
        rw [bytesAfter_congr hagree₁, bytesAfter_congr hagree₂]
    _ = bytesAfter on ((all.filter fun s => s.priority ≤ k) ++ all.filter fun s => k < s.priority)
          bytes := (bytesAfter_append on _ _ bytes).symm
    _ = bytesAfter on all bytes := by rw [Catalog.filter_append_filter hascending k]

/-- A step that undoes what the sample step does. -/
def undoStep : Step where
  name := "u"
  description := ""
  priority := 2
  rules := [{ name := "q", pattern := ⟨"b", .take (.single 'b'), []⟩, transform := .literal "a" }]

/-- Both parts write the file and copy it, and the whole run does neither. -/
theorem run_split_undone :
    let catalog : Catalog := ⟨[sampleStep, undoStep]⟩
    let config : RunConfig := { target := ⟨"."⟩ }
    ∃ r r₁ r₂ bytes, run catalog none config false sampleTree = .ok r
      ∧ run catalog none (config.part catalog (· ≤ 1) (.suffix "bak")) false sampleTree = .ok r₁
      ∧ run catalog none (config.part catalog (1 < ·) (.suffix "old")) false r₁.tree = .ok r₂
      ∧ (r.stats.modified, r₁.stats.modified, r₂.stats.modified) = (0, 1, 1)
      ∧ r.tree.read ⟨"./a.ts"⟩ = .ok bytes ∧ r₂.tree.read ⟨"./a.ts"⟩ = .ok bytes := by
  intro catalog config
  have hcatalog : Catalog.ofSteps [sampleStep, undoStep] = .ok catalog :=
    Catalog.ofSteps_of_ascending (by constructor <;> decide) (by decide)
  have hruns : (do
      let r ← (run catalog none config false sampleTree).toOption
      let r₁ ← (run catalog none (config.part catalog (· ≤ 1) (.suffix "bak")) false
        sampleTree).toOption
      let r₂ ← (run catalog none (config.part catalog (1 < ·) (.suffix "old")) false
        r₁.tree).toOption
      return ((r.stats.modified, r₁.stats.modified, r₂.stats.modified),
        [r, r₁, r₂].map fun x => x.stats.errors)) = some ((0, 1, 1), [[], [], []]) := by
    decide +kernel
  simp only [Option.bind_eq_bind, Option.bind_eq_some_iff] at hruns
  obtain ⟨r, hr, r₁, hr₁, r₂, hr₂, heq⟩ := hruns
  obtain ⟨hmodified, herrors⟩ := Prod.mk.inj (Option.some.inj heq)
  have h := eq_ok_of_toOption hr
  have h₁ := eq_ok_of_toOption hr₁
  have h₂ := eq_ok_of_toOption hr₂
  have hnone : ∀ x ∈ [r, r₁, r₂], ∀ e ∈ x.stats.errors, e.isUncopied = false := by
    simp only [List.map_cons, List.map_nil, List.cons.injEq] at herrors
    simp [herrors]
  have hp : ⟨"./a.ts"⟩ ∈ sampleTree.discover config.target config.extensions config.excluded := by
    decide +kernel
  have hsplit := run_split hcatalog rfl h none none 1 (.suffix "bak") (.suffix "old")
  have hcodes : ∀ steps, catalog.select config.steps = .ok steps → Step.mentionedBy steps = [] := by
    intro steps hselect
    cases hselect
    rfl
  obtain ⟨bytes, hread, hread₂⟩ := (hsplit.2 r₁ h₁).2 r₂ h₂ hnone ⟨"./a.ts"⟩ hp
    fun steps hselect code hcode => absurd (hcodes steps hselect ▸ hcode) List.not_mem_nil
  exact ⟨r, r₁, r₂, bytes, h, h₁, h₂, hmodified, hread, hread₂⟩

end Run

end SourceMend
