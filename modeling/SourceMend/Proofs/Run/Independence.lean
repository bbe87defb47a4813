import SourceMend.Proofs.Run.Checker
import SourceMend.Proofs.Run.Contribution

/-!
# Files are independent

What a run finds out about a candidate depends on its bytes, its path, the
selected steps and its outstanding codes (`examine_independent`), and so does
what the candidate contributes in its turn (`inTurn`) and what it holds in the
end (`read_of_changes`, `read_of_not_changes`), unless it cannot be copied.
Nothing of other files matters.
-/

namespace SourceMend.Run

variable {job : Job} {t t' u : Tree} {p q : Path} {ps : List Path} {s : Stats} {b : Backup}
  {catalog : Catalog} {checker? a? b? : Option Checker} {config : RunConfig}

/-! ## One file in its turn -/

/-- The statistics of a file in its turn among some files that are processed one after another. -/
def inTurn (job : Job) (t : Tree) (ps : List Path) (p : Path) : Stats :=
  (processFile job (processAll job t (ps.takeWhile (· ≠ p))).2 p).1

theorem contributions_eq_map (job : Job) (t : Tree) (hnodup : ps.Nodup) :
    contributions job t ps = ps.map (inTurn job t ps) := by
  induction ps generalizing t with
  | nil => rfl
  | cons p ps ih =>
    obtain ⟨hp, hnodup⟩ := List.nodup_cons.1 hnodup
    rw [contributions, ih _ hnodup, List.map_cons]
    congr 1
    · simp [inTurn, processAll]
    · refine List.map_congr_left fun q hq => ?_
      have hne : p ≠ q := fun h => hp (h ▸ hq)
      simp [inTurn, processAll, hne]

theorem contribution_inTurn (h : t.DistinctFiles ps) (hp : p ∈ ps) :
    Contribution job t p (inTurn job t ps p) := by
  have hall : List.Forall₂ (Contribution job t) ps (contributions job t ps) :=
    contributions_spec (.refl t) h fun _ _ _ _ => rfl
  rw [contributions_eq_map job t h.nodup, List.forall₂_map_right_iff,
    List.forall₂_same] at hall
  exact hall p hp

/-! ## Copies -/

/-- Whether the steps change a file and the change is written. -/
def Changes (job : Job) (t : Tree) (p : Path) (new : ByteArray) : Prop :=
  job.config.dryRun = false ∧ ∃ bytes progress, examine job t p = .ok (bytes, progress)
    ∧ progress.outcome.modified = true ∧ progress.newBytes = new

/-- A backup belongs to the file that contributes it, and this file changes. -/
theorem Contribution.of_mem_backups (h : Contribution job t p s) (hb : b ∈ s.backups) :
    b.file = p ∧ ∃ new, Changes job t p new := by
  cases h with
  | unreadable => cases hb
  | unchanged => cases hb
  | previewed _ _ _ =>
    unfold Run.previewed at hb
    split at hb <;> cases hb
  | notCopied => cases hb
  | replaced hok hm hwet =>
    obtain rfl := List.mem_singleton.1 hb
    exact ⟨rfl, _, hwet, _, _, hok, hm, rfl⟩

/-- A file that has its copy, if it needs one, contributes what is expected. -/
theorem Contribution.withoutCopies (h : Contribution job t p s)
    (hcopied : ∀ new, Changes job t p new → s.backups ≠ []) :
    s.withoutCopies = expected job t p := by
  cases h with
  | unreadable hf => simp only [expected, hf]; rfl
  | unchanged hok _ => simp only [expected, hok]; rfl
  | previewed hok _ _ => simp only [expected, hok]; exact withoutCopies_previewed ..
  | notCopied hok hm hwet => exact absurd rfl (hcopied _ ⟨hwet, _, _, hok, hm, rfl⟩)
  | replaced hok _ _ => simp only [expected, hok]; rfl

/-! ## What a file comes to -/

variable {plan plan' : Plan} {r r' : Result} {new : ByteArray}

theorem processAll_stats_inTurn (job : Job) (h : t.DistinctFiles ps) :
    (processAll job t ps).1 = Stats.sum (ps.map (inTurn job t ps)) := by
  rw [processAll_stats, contributions_eq_map job t h.nodup]

/-- A backup comes from the turn of its file. -/
theorem of_mem_backups (h : t.DistinctFiles ps) (hb : b ∈ (processAll job t ps).1.backups) :
    b.file ∈ ps ∧ b ∈ (inTurn job t ps b.file).backups ∧ ∃ new, Changes job t b.file new := by
  simp only [processAll_stats_inTurn job h, Stats.backups_sum, List.mem_flatMap, List.mem_map] at hb
  obtain ⟨_, ⟨q, hq, rfl⟩, hb⟩ := hb
  obtain ⟨rfl, hchanges⟩ := (contribution_inTurn h hq).of_mem_backups hb
  exact ⟨hq, hb, hchanges⟩

/-- What a file that changes and has its copy holds in the end. -/
theorem read_of_changes (h : t.DistinctFiles ps) (hchanges : Changes job t p new)
    (hcopied : ∃ b ∈ (processAll job t ps).1.backups, b.file = p) :
    (processAll job t ps).2.read p = .ok new := by
  obtain ⟨b, hb, rfl⟩ := hcopied
  obtain ⟨hwet, bytes, progress, hok, -, rfl⟩ := hchanges
  obtain ⟨hload, before, hdecode, rfl⟩ := examine_eq_ok hok
  obtain ⟨bytes', before', hread', hdecode', hafter⟩ :=
    ((effect_processAll hwet h).backed b hb).mended
  obtain rfl : bytes = bytes' := Except.ok.inj ((Tree.read_of_load hload).symm.trans hread')
  obtain rfl : before = before' := Except.ok.inj (hdecode.symm.trans hdecode')
  exact hafter

/-- A file that does not change holds the same in the end. -/
theorem read_of_not_changes (h : t.DistinctFiles ps) (hp : p ∈ ps)
    (hnot : ∀ new, ¬ Changes job t p new) : (processAll job t ps).2.read p = t.read p := by
  by_cases hdry : job.config.dryRun = true
  · rw [processAll_tree_of_dryRun hdry]
  · have heffect := effect_processAll (Bool.eq_false_iff.2 hdry) h
    obtain ⟨l, old, hl, hfile⟩ := h.file p hp
    refine Tree.read_congr hl (heffect.keeps.locate hl)
      (heffect.frame l (by simp [hfile]) fun b hb hlb => ?_)
    obtain ⟨hmem, -, new, hchanges⟩ := of_mem_backups h hb
    obtain rfl := h.eq_of_locate_eq hmem hp (hlb.trans hl.symm)
    exact hnot new hchanges

/-! ## Two runs -/

/-- Whether a file that changes has a backup in the statistics of a run. -/
def Copied (job : Job) (t : Tree) (p : Path) (s : Stats) : Prop :=
  ∀ new, Changes job t p new → ∃ b ∈ s.backups, b.file = p

/-- What is found out about a file is the same in two trees where it holds the same, if the same of
the mentioned codes are outstanding for it. -/
theorem examine_independent {job' : Job} (hsteps : job.steps = job'.steps)
    (hbase : job.base = job'.base) (hread : t.read p = u.read p)
    (hcodes : Codes.Agree (Step.mentionedBy job.steps) (job.index.codesFor t p)
      (job'.index.codesFor u p)) : examine job t p = examine job' u p := by
  have hsubject : Subject.Agree (Step.mentionedBy job.steps) (job.subject t p)
      (job'.subject u p) :=
    ⟨by simp only [Job.subject, hbase], rfl, hcodes⟩
  have hmend (text : Text) :
      mend job.steps (job.subject t p) text = mend job'.steps (job'.subject u p) text := by
    rw [← hsteps]
    exact mend_congr hsubject text
  simp only [examine, Tree.load, hread, hmend]

/-- A file that has its copy, if it needs one, contributes what is expected. -/
theorem withoutCopies_inTurn (h : t.DistinctFiles ps) (hp : p ∈ ps)
    (hcopied : Copied job t p (processAll job t ps).1) :
    (inTurn job t ps p).withoutCopies = expected job t p := by
  refine (contribution_inTurn h hp).withoutCopies fun new hchanges => ?_
  obtain ⟨b, hb, rfl⟩ := hcopied new hchanges
  exact List.ne_nil_of_mem (of_mem_backups h hb).2.1

/-- What a run lists as backups does not depend on how its statistics are sorted. -/
theorem Copied.of_carryOut (h : Copied plan.job t p (plan.carryOut false t).stats) :
    Copied plan.job t p (processAll plan.job t plan.files).1 := by
  intro new hchanges
  obtain ⟨b, hb, hfile⟩ := h new hchanges
  exact ⟨b, (List.mergeSort_perm _ _).mem_iff.1 hb, hfile⟩

/-- The directory that paths are shown from is the same for two trees with a candidate in common. -/
theorem baseOf_congr {root : Path} {extensions excluded : List String}
    (hp : p ∈ t.discover root extensions excluded) (hp' : p ∈ u.discover root extensions excluded) :
    baseOf t root = baseOf u root := by
  have hfile : t.hasFile root = u.hasFile root := by
    rw [Bool.eq_iff_iff, Tree.hasFile_iff_of_mem_discover hp, Tree.hasFile_iff_of_mem_discover hp']
  simp only [baseOf, hfile]

/-- Files are independent.  Two runs over trees where a candidate holds the same, and where the same
of the mentioned codes are outstanding for it, find out the same about it, whatever the other files
are.  If it has its copy in both, should it need one, it holds the same in the end and contributes
the same. -/
theorem run_independent (hrun : run catalog a? config false t = .ok r)
    (hrun' : run catalog b? config false u = .ok r')
    (hp : p ∈ t.discover config.target config.extensions config.excluded)
    (hp' : p ∈ u.discover config.target config.extensions config.excluded)
    (hread : t.read p = u.read p)
    (hcodes : ∀ steps, catalog.select config.steps = .ok steps →
      ∀ code ∈ Step.mentionedBy steps, Outstanding t a? p code ↔ Outstanding u b? p code) :
    ∃ plan plan', Run.plan catalog a? config t = .ok plan
      ∧ Run.plan catalog b? config u = .ok plan'
      ∧ r.stats = (Stats.sum (plan.files.map (inTurn plan.job t plan.files))).normalize
      ∧ r'.stats = (Stats.sum (plan'.files.map (inTurn plan'.job u plan'.files))).normalize
      ∧ p ∈ plan.files ∧ p ∈ plan'.files
      ∧ examine plan.job t p = examine plan'.job u p
      ∧ (Copied plan.job t p r.stats → Copied plan'.job u p r'.stats →
        r.tree.read p = r'.tree.read p
          ∧ (inTurn plan.job t plan.files p).withoutCopies
            = (inTurn plan'.job u plan'.files p).withoutCopies) := by
  obtain ⟨plan, hplan, rfl⟩ := run_eq_ok hrun
  obtain ⟨plan', hplan', rfl⟩ := run_eq_ok hrun'
  obtain ⟨hselect, hbase, hindex⟩ := plan_job hplan
  obtain ⟨hselect', hbase', hindex'⟩ := plan_job hplan'
  obtain ⟨hfiles, hconfig⟩ := plan_eq_ok hplan
  obtain ⟨hfiles', hconfig'⟩ := plan_eq_ok hplan'
  rw [← hfiles] at hp
  rw [← hfiles'] at hp'
  have hsteps : plan.job.steps = plan'.job.steps := Except.ok.inj (hselect.symm.trans hselect')
  have hsame : plan.job.base = plan'.job.base := by
    rw [hbase, hbase']
    exact baseOf_congr (hfiles ▸ hp) (hfiles' ▸ hp')
  have hexamine : examine plan.job t p = examine plan'.job u p :=
    examine_independent hsteps hsame hread fun code hcode => by
      rw [hindex p code hcode, hindex' p code (hsteps ▸ hcode)]
      exact hcodes _ hselect code hcode
  have hchanges (new : ByteArray) : Changes plan.job t p new ↔ Changes plan'.job u p new := by
    simp only [Changes, hexamine, hconfig, hconfig']
  have hd := distinctFiles_of_plan hplan false
  have hd' := distinctFiles_of_plan hplan' false
  have hstats := congrArg Stats.normalize (processAll_stats_inTurn plan.job hd)
  have hstats' := congrArg Stats.normalize (processAll_stats_inTurn plan'.job hd')
  refine ⟨plan, plan', hplan, hplan', hstats, hstats', hp, hp', hexamine,
    fun hcopied hcopied' => ⟨?_, ?_⟩⟩
  · change (processAll plan.job t plan.files).2.read p = (processAll plan'.job u plan'.files).2.read p
    by_cases hsome : ∃ new, Changes plan.job t p new
    · obtain ⟨new, hnew⟩ := hsome
      have hnew' := (hchanges new).1 hnew
      exact (read_of_changes hd hnew (hcopied.of_carryOut new hnew)).trans
        (read_of_changes hd' hnew' (hcopied'.of_carryOut new hnew')).symm
    · have hnone : ∀ new, ¬ Changes plan.job t p new := fun new h => hsome ⟨new, h⟩
      exact ((read_of_not_changes hd hp hnone).trans hread).trans
        (read_of_not_changes hd' hp' fun new h => hnone new ((hchanges new).2 h)).symm
  · refine (withoutCopies_inTurn hd hp hcopied.of_carryOut).trans
      (.trans ?_ (withoutCopies_inTurn hd' hp' hcopied'.of_carryOut).symm)
    simp only [expected, hexamine, hsame]

/-- The sample tree without what looks like an earlier backup. -/
def bareTree : Tree := Tree.empty.put ["a.ts"] (.file "aa".toUTF8)

/-- A file that stands beside another gets its backup elsewhere, and the same text. -/
theorem run_independent_sample :
    ∃ r r', run ⟨[sampleStep]⟩ none { target := ⟨"."⟩ } false sampleTree = .ok r
      ∧ run ⟨[sampleStep]⟩ none { target := ⟨"."⟩ } false bareTree = .ok r'
      ∧ r.stats.backups = [⟨⟨"./a.ts"⟩, ⟨"./a.ts.bak.1"⟩⟩]
      ∧ r'.stats.backups = [⟨⟨"./a.ts"⟩, ⟨"./a.ts.bak"⟩⟩]
      ∧ r.tree.read ⟨"./a.ts"⟩ = r'.tree.read ⟨"./a.ts"⟩ := by
  have hbackups : ((run ⟨[sampleStep]⟩ none { target := ⟨"."⟩ } false sampleTree).toOption.map
      fun r => r.stats.backups) = some [⟨⟨"./a.ts"⟩, ⟨"./a.ts.bak.1"⟩⟩] := by
    decide +kernel
  have hbackups' : ((run ⟨[sampleStep]⟩ none { target := ⟨"."⟩ } false bareTree).toOption.map
      fun r => r.stats.backups) = some [⟨⟨"./a.ts"⟩, ⟨"./a.ts.bak"⟩⟩] := by
    decide +kernel
  cases h : run ⟨[sampleStep]⟩ none { target := ⟨"."⟩ } false sampleTree with
  | error e => simp [h, Except.toOption] at hbackups
  | ok r =>
    cases h' : run ⟨[sampleStep]⟩ none { target := ⟨"."⟩ } false bareTree with
    | error e => simp [h', Except.toOption] at hbackups'
    | ok r' =>
      have hbackups : r.stats.backups = [⟨⟨"./a.ts"⟩, ⟨"./a.ts.bak.1"⟩⟩] := by
        simpa [h, Except.toOption] using hbackups
      have hbackups' : r'.stats.backups = [⟨⟨"./a.ts"⟩, ⟨"./a.ts.bak"⟩⟩] := by
        simpa [h', Except.toOption] using hbackups'
      have hnone {t : Tree} {p : Path} {code : String} : ¬ Outstanding t none p code := by
        rintro ⟨_, hnone, -⟩
        cases hnone
      obtain ⟨plan, plan', -, -, -, -, -, -, -, hsame⟩ := run_independent h h'
        (show (⟨"./a.ts"⟩ : Path) ∈ _ by decide +kernel) (by decide +kernel) (by rfl)
        fun steps _ code _ => iff_of_false hnone hnone
      obtain ⟨hread, -⟩ := hsame
        (fun _ _ => ⟨_, hbackups ▸ List.mem_singleton.2 rfl, rfl⟩)
        fun _ _ => ⟨_, hbackups' ▸ List.mem_singleton.2 rfl, rfl⟩
      exact ⟨r, r', rfl, rfl, hbackups, hbackups', hread⟩

end SourceMend.Run
