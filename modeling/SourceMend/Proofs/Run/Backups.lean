import SourceMend.Proofs.Run.Accounting
import SourceMend.Proofs.Run.Effect
import SourceMend.Proofs.Run.History
import SourceMend.Proofs.Tree.FileName

/-!
# What becomes of backups

A backup is a file like any other.  A later run makes its copies elsewhere, but
it may find the backup among its candidates, namely when the suffix of backups
is an extension that runs look for, and then it rewrites it
(`second_run_rewrites_backup`).  `backup_history` says what holds in general:
the backup still exists, some file still has its bytes, and the backup has them
itself unless runs over the directory look for its extension.
-/

namespace SourceMend

/-! ## Files that no search finds -/

namespace Tree

variable {t t' : Tree} {root copy q : Path} {l : Location} {bytes : ByteArray}
  {extensions excluded : List String}

/-- A search does not find what `copy` leads to at `l`: it looks for other extensions, or it starts
from a file elsewhere. -/
def Unsought (t : Tree) (root : Path) (extensions : List String) (copy : Path) (l : Location) :
    Prop :=
  copy.hasExtension extensions = false
    ∨ ∃ m bytes, t.locate root = .ok m ∧ t.get? m = some (.file bytes) ∧ m ≠ l

theorem Unsought.keeps (h : t.Unsought root extensions copy l) (hkeeps : t.Keeps t') :
    t'.Unsought root extensions copy l := by
  rcases h with hother | ⟨m, bytes, hm, hfile, hne⟩
  · exact .inl hother
  · obtain ⟨bytes', hfile'⟩ := hkeeps.file m bytes hfile
    exact .inr ⟨m, bytes', hkeeps.locate hm, hfile', hne⟩

theorem Unsought.locate_ne (h : t.Unsought root extensions copy l) (hcopy : t.locate copy = .ok l)
    (hheld : t.get? l = some (.file bytes)) (hq : q ∈ t.discover root extensions excluded) :
    t.locate q ≠ .ok l := by
  intro hl
  rcases h with hother | ⟨m, old, hm, hfile, hne⟩
  · have hfound := hasExtension_of_mem_discover hq
    rw [hasExtension_congr hl hcopy hheld, hother] at hfound
    cases hfound
  · have hroot := hasFile_eq_true.2 ⟨m, old, hm, hfile⟩
    obtain rfl := (hasFile_iff_of_mem_discover hq).1 hroot
    exact hne (Except.ok.inj (hm.symm.trans hl))

end Tree

namespace Run

variable {catalog : Catalog} {checker? : Option Checker} {config : RunConfig} {cancelled : Bool}
  {t : Tree} {r : Result} {b : Backup} {copy : Path} {l : Location} {bytes : ByteArray}

/-! ## Later runs -/

theorem perform_of_plan {c : Call} {p : Plan}
    (h : plan c.catalog c.checker? c.config t = .ok p) :
    c.perform t = (processAll p.job t (p.processed c.cancelled)).2 := by
  simp only [Call.perform, run, h, Except.map, Plan.carryOut]

/-- A run leaves alone what is not one of its candidates. -/
theorem get?_perform {c : Call} (hsome : (t.get? l).isSome)
    (hother : ∀ q ∈ t.discover c.config.target c.config.extensions c.config.excluded,
      t.locate q ≠ .ok l) : (c.perform t).get? l = t.get? l := by
  cases hp : plan c.catalog c.checker? c.config t with
  | error e => simp only [Call.perform, run, hp, Except.map]
  | ok p =>
    rw [perform_of_plan hp]
    by_cases hdry : p.job.config.dryRun = true
    · rw [processAll_tree_of_dryRun hdry]
    · have heffect := effect_processAll (Bool.eq_false_iff.2 hdry)
        (distinctFiles_of_plan hp c.cancelled)
      exact heffect.frame l hsome fun b hb =>
        hother b.file (mem_discover_of_mem_processed hp (heffect.candidate b hb))

/-- Runs that do not find a file leave it alone. -/
theorem get?_afterAll (later : List Call) (hcopy : t.locate copy = .ok l)
    (hheld : t.get? l = some (.file bytes))
    (hunsought : t.Unsought config.target config.extensions copy l)
    (hsame : ∀ c ∈ later, c.config.target = config.target
      ∧ c.config.extensions = config.extensions) :
    (afterAll later t).get? l = some (.file bytes) := by
  induction later generalizing t with
  | nil => exact hheld
  | cons c later ih =>
    obtain ⟨⟨htarget, hextensions⟩, hsame⟩ := List.forall_mem_cons.1 hsame
    have hget : (c.perform t).get? l = t.get? l := by
      refine get?_perform (by simp [hheld]) fun q hq => ?_
      rw [htarget, hextensions] at hq
      exact hunsought.locate_ne hcopy hheld hq
    have hkeeps := (retains_perform t c).keeps
    exact ih (hkeeps.locate hcopy) (hget.trans hheld) (hunsought.keeps hkeeps) hsame

/-- A backup is the new copy of a file. -/
theorem copied_of_mem_backups (h : run catalog checker? config cancelled t = .ok r)
    (hb : b ∈ r.stats.backups) :
    t.Keeps r.tree ∧ ∃ c bytes, t.get? c = none ∧ r.tree.locate b.copy = .ok c
      ∧ t.read b.file = .ok bytes ∧ r.tree.get? c = some (.file bytes) := by
  obtain ⟨p, hp, rfl⟩ := run_eq_ok h
  have hlisted := (backups_carryOut_perm p cancelled t).mem_iff.1 hb
  have hwet : p.job.config.dryRun = false := by
    refine Bool.eq_false_iff.2 fun hdry => ?_
    rw [backups_of_dryRun hdry] at hlisted
    cases hlisted
  have heffect := effect_processAll hwet (distinctFiles_of_plan hp cancelled)
  exact ⟨heffect.keeps, (heffect.backed b hlisted).copied⟩

/-- After any later runs for the same target and extensions a backup still exists and some file
still holds its bytes.  It holds them itself if the target is a file or the extension of the backup
is none of these. -/
theorem backup_history (h : run catalog checker? config cancelled t = .ok r)
    (hb : b ∈ r.stats.backups) (later : List Call)
    (hsame : ∀ c ∈ later, c.config.target = config.target
      ∧ c.config.extensions = config.extensions) :
    ∃ bytes, t.read b.file = .ok bytes ∧ r.tree.read b.copy = .ok bytes
      ∧ (afterAll later r.tree).hasFile b.copy = true
      ∧ (∃ l, (afterAll later r.tree).get? l = some (.file bytes))
      ∧ (t.hasFile config.target = true ∨ b.copy.hasExtension config.extensions = false →
        (afterAll later r.tree).read b.copy = .ok bytes) := by
  obtain ⟨hkeeps, c, bytes, hfree, hcopy, hread, hheld⟩ := copied_of_mem_backups h hb
  have hretains := retains_afterAll later r.tree
  have hbackup := Tree.hasFile_eq_true.2 ⟨c, bytes, hcopy, hheld⟩
  refine ⟨bytes, hread, Tree.read_eq_ok.2 ⟨c, hcopy, hheld⟩, hretains.keeps.hasFile hbackup,
    hretains.content c bytes hheld, fun hcase => ?_⟩
  have hunsought : r.tree.Unsought config.target config.extensions b.copy c := by
    rcases hcase with htarget | hother
    · obtain ⟨m, old, hm, hfile⟩ := Tree.hasFile_eq_true.1 htarget
      obtain ⟨new, hfile'⟩ := hkeeps.file m old hfile
      have hne : m ≠ c := by
        rintro rfl
        simp [hfree] at hfile
      exact .inr ⟨m, new, hkeeps.locate hm, hfile', hne⟩
    · exact .inl hother
  exact Tree.read_eq_ok.2 ⟨c, hretains.keeps.locate hcopy,
    get?_afterAll later hcopy hheld hunsought hsame⟩

/-- The backup that a run makes beside an earlier one outlasts the next run. -/
theorem backup_history_sample :
    let call : Call := ⟨⟨[sampleStep]⟩, none, { target := ⟨"."⟩ }, false⟩
    ∃ r, run call.catalog call.checker? call.config call.cancelled sampleTree = .ok r
      ∧ r.stats.backups = [⟨⟨"./a.ts"⟩, ⟨"./a.ts.bak.1"⟩⟩]
      ∧ ∃ bytes, sampleTree.read ⟨"./a.ts"⟩ = .ok bytes
        ∧ (afterAll [call] r.tree).read ⟨"./a.ts.bak.1"⟩ = .ok bytes := by
  intro call
  have hbackups : ((run call.catalog call.checker? call.config call.cancelled
      sampleTree).toOption.map fun r => r.stats.backups)
        = some [⟨⟨"./a.ts"⟩, ⟨"./a.ts.bak.1"⟩⟩] := by
    decide +kernel
  obtain ⟨r, h, hlisted⟩ := exists_ok_of_toOption_map hbackups
  have hb : ⟨⟨"./a.ts"⟩, ⟨"./a.ts.bak.1"⟩⟩ ∈ r.stats.backups := by simp [hlisted]
  have hother : (⟨"./a.ts.bak.1"⟩ : Path).hasExtension defaultExtensions = false := by
    decide +kernel
  obtain ⟨bytes, hread, -, -, -, hkept⟩ := backup_history h hb [call] (by simp)
  exact ⟨r, h, hlisted, bytes, hread, hkept (.inr hother)⟩

/-! ## A backup that runs look for -/

/-- A run whose backups have an extension of candidates. -/
def soughtCall : Call := ⟨⟨[sampleStep]⟩, none, { target := ⟨"."⟩, backup := .suffix "ts" }, false⟩

/-- A tree with one file. -/
def soughtTree : Tree := Tree.empty.put ["a.ts"] (.file "aa".toUTF8)

/-- The tree after the run. -/
def soughtAfter : Tree :=
  (Tree.empty.put ["a.ts"] (.file "bb".toUTF8)).put ["a.ts.ts"] (.file "aa".toUTF8)

theorem perform_soughtTree : soughtCall.perform soughtTree = soughtAfter := by decide +kernel

/-- The second run looks for the backup of the first one. -/
theorem discover_soughtAfter :
    soughtAfter.discover ⟨"."⟩ defaultExtensions defaultExcluded
      = [⟨"./a.ts"⟩, ⟨"./a.ts.ts"⟩] := by
  have hroot : soughtAfter.locate ⟨"."⟩ = .ok [] := by decide +kernel
  have hfound : ((soughtAfter.filesBelow [] defaultExcluded).map
      fun ns => ns.foldl Path.child ⟨"."⟩).filter (fun p => p.hasExtension defaultExtensions)
        = [⟨"./a.ts"⟩, ⟨"./a.ts.ts"⟩] := by
    decide +kernel
  simp only [Tree.discover, hroot, Tree.get?_nil, hfound]
  exact List.mergeSort_of_pairwise (by decide +kernel)

theorem plan_soughtAfter :
    plan soughtCall.catalog none soughtCall.config soughtAfter
      = .ok ⟨⟨[sampleStep], .empty, ⟨"."⟩, soughtCall.config⟩, none,
          [⟨"./a.ts"⟩, ⟨"./a.ts.ts"⟩]⟩ := by
  have htarget : soughtAfter.has soughtCall.config.target = true := by decide +kernel
  have hbase : baseOf soughtAfter soughtCall.config.target = ⟨"."⟩ := by decide +kernel
  have hready : ready soughtCall.catalog soughtCall.config soughtAfter = .ok [sampleStep] :=
    ready_eq_ok_iff.mpr ⟨htarget, rfl⟩
  rw [plan_of_ready hready, planFor_eq, hbase, ← discover_soughtAfter]
  rfl

/-- A second run with the same settings rewrites the backup of the first one. -/
theorem second_run_rewrites_backup :
    ((run soughtCall.catalog soughtCall.checker? soughtCall.config soughtCall.cancelled
        soughtTree).toOption.map fun r => r.stats.backups) = some [⟨⟨"./a.ts"⟩, ⟨"./a.ts.ts"⟩⟩]
      ∧ (afterAll [soughtCall] soughtTree).read ⟨"./a.ts.ts"⟩ = .ok "aa".toUTF8
      ∧ (afterAll [soughtCall, soughtCall] soughtTree).read ⟨"./a.ts.ts"⟩ = .ok "bb".toUTF8 := by
  have hafter : afterAll [soughtCall, soughtCall] soughtTree = soughtCall.perform soughtAfter := by
    simp only [afterAll, List.foldl_cons, List.foldl_nil, perform_soughtTree]
  refine ⟨by decide +kernel, by decide +kernel, ?_⟩
  rw [hafter, perform_of_plan plan_soughtAfter]
  decide +kernel

end Run
end SourceMend
