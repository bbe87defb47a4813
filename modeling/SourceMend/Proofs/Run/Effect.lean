import SourceMend.Proofs.Run.File
import SourceMend.Proofs.Run.Plan

/-!
# The effect of a run on the tree

`Effect` says what a run that writes does to a tree: every listed backup belongs
to a modified file, which now holds the text that the steps leave, and to a new
copy with the bytes from before; nothing else is changed and nothing else is
new.  The files are processed one after another on a tree that grows, so the
invariant of the loop is that the files still to come are untouched
(`effect_processAll`).  `run_effect` is the statement for whole runs.
-/

namespace SourceMend.Run

/-- The bytes that the selected steps leave of a file whose text is `before`. -/
def mendedBytes (job : Job) (t : Tree) (p : Path) (before : String) : ByteArray :=
  (mend job.steps (job.subject t p) before.toList).newBytes

/-- A backup that belongs to a modified file. -/
structure Backed (job : Job) (t : Tree) (t' : Tree) (b : Backup) : Prop where
  /-- The file was readable as text and holds what the steps leave of this text. -/
  mended : ∃ bytes before, t.read b.file = .ok bytes ∧ Text.Utf8.decode bytes = .ok before
    ∧ t'.read b.file = .ok (mendedBytes job t b.file before)
  /-- The copy is new and holds what the file held. -/
  copied : ∃ c bytes, t.get? c = none ∧ t'.locate b.copy = .ok c
    ∧ t.read b.file = .ok bytes ∧ t'.get? c = some (.file bytes)

/-- The failure of a file that could not be copied. -/
def notCopied (job : Job) (p : Path) (f : Fault) : Failure :=
  ⟨p.shown job.base, (FileError.backup p f).message⟩

/-- What a run over some candidates that writes does to a tree. -/
structure Effect (job : Job) (ps : List Path) (t : Tree) (s : Stats) (t' : Tree) : Prop where
  /-- The tree is kept. -/
  keeps : t.Keeps t'
  /-- Every backup is the copy of a candidate. -/
  candidate : ∀ b ∈ s.backups, b.file ∈ ps
  /-- Every backup belongs to a modified file. -/
  backed : ∀ b ∈ s.backups, Backed job t t' b
  /-- Every candidate that the steps change has a backup, unless it could not be copied. -/
  complete : ∀ p ∈ ps, ∀ bytes progress, examine job t p = .ok (bytes, progress) →
    progress.outcome.modified = true →
    (∃ b ∈ s.backups, b.file = p) ∨ ∃ f, notCopied job p f ∈ s.errors
  /-- The files listed as modified are those with a backup. -/
  listed : s.modifiedFiles.Perm (s.backups.map fun b => b.file.shown job.base)
  /-- No file has two backups. -/
  files : s.backups.Pairwise fun a b => t.locate a.file ≠ t.locate b.file
  /-- No two backups share a copy. -/
  copies : s.backups.Pairwise fun a b => t'.locate a.copy ≠ t'.locate b.copy
  /-- Everything else is as it was. -/
  frame : ∀ l, (t.get? l).isSome → (∀ b ∈ s.backups, t.locate b.file ≠ .ok l) →
    t'.get? l = t.get? l
  /-- What is new is a copy. -/
  created : ∀ l, t.get? l = none → (t'.get? l).isSome → ∃ b ∈ s.backups, t'.locate b.copy = .ok l

variable {job : Job} {t t' t₁ : Tree} {p copy : Path} {ps : List Path} {s s₁ : Stats}
  {l c : Location} {bytes : ByteArray} {progress : Progress}

theorem effect_nil (job : Job) (t : Tree) : Effect job [] t default t where
  keeps := .refl t
  candidate := fun _ h => nomatch h
  backed := fun _ h => nomatch h
  complete := fun _ h => nomatch h
  listed := .refl []
  files := .nil
  copies := .nil
  frame _ _ _ := rfl
  created l hnone hsome := by simp [hnone] at hsome

/-- A file that leaves the tree as it is and is not modified adds nothing to the effect. -/
theorem Effect.cons_unchanged (h : Effect job ps t s t') (hbackups : s₁.backups = [])
    (hlisted : s₁.modifiedFiles = [])
    (hp : ∀ bytes progress, examine job t p = .ok (bytes, progress) →
      progress.outcome.modified = true → ∃ f, notCopied job p f ∈ s₁.errors) :
    Effect job (p :: ps) t (s₁.merge s) t' where
  keeps := h.keeps
  candidate b hb := by
    rw [Stats.merge, hbackups] at hb
    exact List.mem_cons_of_mem p (h.candidate b hb)
  backed b hb := by
    rw [Stats.merge, hbackups] at hb
    exact h.backed b hb
  complete q hq bytes progress hexamine hm := by
    rcases List.mem_cons.1 hq with rfl | hq
    · obtain ⟨f, hf⟩ := hp bytes progress hexamine hm
      exact .inr ⟨f, List.mem_append_left _ hf⟩
    · rcases h.complete q hq bytes progress hexamine hm with ⟨b, hb, hbq⟩ | ⟨f, hf⟩
      · exact .inl ⟨b, List.mem_append_right _ hb, hbq⟩
      · exact .inr ⟨f, List.mem_append_right _ hf⟩
  listed := by simpa [Stats.merge, hbackups, hlisted] using h.listed
  files := by simpa [Stats.merge, hbackups] using h.files
  copies := by simpa [Stats.merge, hbackups] using h.copies
  frame := by simpa [Stats.merge, hbackups] using h.frame
  created := by simpa [Stats.merge, hbackups] using h.created

/-! ## After a replacement -/

section Replaced

variable {new : ByteArray}

/-- A file still to come is where it was, with what it held, and neither the replaced file nor its
copy is there. -/
theorem exists_locate_later (hr : t.Replaces p copy bytes new l c t₁)
    (hfiles : t.DistinctFiles (p :: ps)) {q : Path} (hq : q ∈ ps) :
    ∃ m, t.locate q = .ok m ∧ t₁.locate q = .ok m ∧ t₁.get? m = t.get? m ∧ m ≠ l ∧ m ≠ c := by
  obtain ⟨m, old, hm, hheld⟩ := hfiles.tail.file q hq
  have hne : m ≠ l := hfiles.ne_head hq hr.locate hm
  refine ⟨m, hm, hr.keeps.locate hm, hr.get?_of_ne hne (by simp [hheld]), hne, ?_⟩
  rintro rfl
  simp [hr.free] at hheld

/-- A backup made after a file was replaced is also one in terms of the tree before. -/
theorem Backed.of_replaces {b : Backup} (h : Backed job t₁ t' b)
    (hr : t.Replaces p copy bytes new l c t₁) (hfiles : t.DistinctFiles (p :: ps))
    (hb : b.file ∈ ps) : Backed job t t' b := by
  obtain ⟨m, hm, hm₁, hget, -⟩ := exists_locate_later hr hfiles hb
  have hread : t₁.read b.file = t.read b.file := Tree.read_congr hm hm₁ hget
  constructor
  · obtain ⟨old, before, hold, hdecode, hnew⟩ := h.mended
    refine ⟨old, before, hread ▸ hold, hdecode, ?_⟩
    rw [hnew, mendedBytes, mendedBytes, subject_congr hr.keeps hm]
  · obtain ⟨k, old, hfree, hk, hold, hcopy⟩ := h.copied
    refine ⟨k, old, ?_, hk, hread ▸ hold, hcopy⟩
    cases hg : t.get? k with
    | none => rfl
    | some e =>
      have := hr.keeps.isSome (l := k) (by simp [hg])
      simp [hfree] at this

/-- The files that are modified later stand neither where the replaced file does nor where its copy
does. -/
theorem Effect.locate_ne (h : Effect job ps t₁ s t') (hr : t.Replaces p copy bytes new l c t₁)
    (hfiles : t.DistinctFiles (p :: ps)) {b : Backup} (hb : b ∈ s.backups) :
    t₁.locate b.file ≠ .ok l ∧ t₁.locate b.file ≠ .ok c := by
  obtain ⟨m, -, hm, -, hl, hc⟩ := exists_locate_later hr hfiles (h.candidate b hb)
  simpa [hm] using And.intro hl hc

/-- What comes after a replacement touches neither the file nor its copy. -/
theorem Effect.get?_replaced (h : Effect job ps t₁ s t')
    (hr : t.Replaces p copy bytes new l c t₁) (hfiles : t.DistinctFiles (p :: ps)) :
    t'.get? l = some (.file new) ∧ t'.get? c = some (.file bytes) := by
  have hl : t₁.get? l = some (.file new) := by rw [hr.get?_eq, if_pos rfl]
  have hc : t₁.get? c = some (.file bytes) := by
    rw [hr.get?_eq, if_neg (Ne.symm hr.ne), if_pos rfl]
  constructor
  · rw [h.frame l (by simp [hl]) fun b hb => (h.locate_ne hr hfiles hb).1, hl]
  · rw [h.frame c (by simp [hc]) fun b hb => (h.locate_ne hr hfiles hb).2, hc]

/-- A replacement is part of the effect, together with what comes after it. -/
theorem Effect.cons_replaced (h : Effect job ps t₁ s t')
    (hr : t.Replaces p copy bytes progress.newBytes l c t₁)
    (hexamine : examine job t p = .ok (bytes, progress))
    (hmodified : progress.outcome.modified = true) (hfiles : t.DistinctFiles (p :: ps)) :
    Effect job (p :: ps) t
      (Stats.merge { progress.stats (p.shown job.base) with backups := [⟨p, copy⟩] } s) t' := by
  have hlocate (b) (hb : b ∈ s.backups) : t₁.locate b.file = t.locate b.file :=
    hfiles.tail.locate_eq hr.keeps (h.candidate b hb)
  have hcopyAt : t'.locate copy = .ok c := h.keeps.locate hr.locate_copy
  have hbackups : (Stats.merge { progress.stats (p.shown job.base) with backups := [⟨p, copy⟩] }
      s).backups = ⟨p, copy⟩ :: s.backups := rfl
  obtain ⟨hfile, hcopy⟩ := h.get?_replaced hr hfiles
  obtain ⟨hload, before, hdecode, rfl⟩ := examine_eq_ok hexamine
  have hread := Tree.read_of_load hload
  constructor
  case keeps => exact hr.keeps.trans h.keeps
  case candidate =>
    intro b hb
    rw [hbackups] at hb
    rcases List.mem_cons.1 hb with rfl | hb
    · exact List.mem_cons_self
    · exact List.mem_cons_of_mem p (h.candidate b hb)
  case backed =>
    intro b hb
    rw [hbackups] at hb
    rcases List.mem_cons.1 hb with rfl | hb
    · refine ⟨⟨bytes, before, hread, hdecode, ?_⟩, ⟨c, bytes, hr.free, hcopyAt, hread, hcopy⟩⟩
      exact Tree.read_eq_ok.2 ⟨l, (hr.keeps.trans h.keeps).locate hr.locate, hfile⟩
    · exact (h.backed b hb).of_replaces hr hfiles (h.candidate b hb)
  case complete =>
    intro q hq old after hexamined hm
    rcases List.mem_cons.1 hq with rfl | hq
    · exact .inl ⟨⟨q, copy⟩, List.mem_cons_self, rfl⟩
    · obtain ⟨k, hk, -, hget, -⟩ := exists_locate_later hr hfiles hq
      rw [← examine_congr hr.keeps hk hget] at hexamined
      rcases h.complete q hq old after hexamined hm with ⟨b, hb, hbq⟩ | ⟨f, hf⟩
      · exact .inl ⟨b, List.mem_cons_of_mem _ hb, hbq⟩
      · exact .inr ⟨f, List.mem_append_right _ hf⟩
  case listed =>
    have hone : ((mend job.steps (job.subject t p) before.toList).stats
        (p.shown job.base)).modifiedFiles = [p.shown job.base] := by
      simp [Progress.stats, Stats.ofOutcome, hmodified]
    simpa [Stats.merge, hone] using h.listed
  case files =>
    rw [hbackups]
    refine List.pairwise_cons.2 ⟨fun b hb => ?_, h.files.imp_of_mem fun ha hb hne => ?_⟩
    · rw [hr.locate, ← hlocate b hb]
      exact (h.locate_ne hr hfiles hb).1.symm
    · rwa [← hlocate _ ha, ← hlocate _ hb]
  case copies =>
    rw [hbackups]
    refine List.pairwise_cons.2 ⟨fun b hb heq => ?_, h.copies⟩
    obtain ⟨k, _, hnone, hk, -⟩ := (h.backed b hb).copied
    simp only [hcopyAt, hk] at heq
    obtain rfl := Except.ok.inj heq
    simp [hr.get?_eq, Ne.symm hr.ne] at hnone
  case frame =>
    intro m hsome hother
    rw [hbackups] at hother
    have hne : m ≠ l := by
      rintro rfl
      exact hother _ List.mem_cons_self hr.locate
    rw [h.frame m (hr.keeps.isSome hsome) fun b hb => ?_, hr.get?_of_ne hne hsome]
    rw [hlocate b hb]
    exact hother b (List.mem_cons_of_mem _ hb)
  case created =>
    intro m hnone hsome
    rw [hbackups]
    by_cases hm : m = c
    · exact ⟨⟨p, copy⟩, List.mem_cons_self, hm ▸ hcopyAt⟩
    · have hne : m ≠ l := by
        rintro rfl
        simp [hr.held] at hnone
      have hnone₁ : t₁.get? m = none := by rw [hr.get?_eq, if_neg hne, if_neg hm, hnone]
      obtain ⟨b, hb, hcb⟩ := h.created m hnone₁ hsome
      exact ⟨b, List.mem_cons_of_mem _ hb, hcb⟩

end Replaced

/-! ## All files -/

/-- The effect of processing files one after another. -/
theorem effect_processAll (hwet : job.config.dryRun = false) (hfiles : t.DistinctFiles ps) :
    Effect job ps t (processAll job t ps).1 (processAll job t ps).2 := by
  induction ps generalizing t with
  | nil => exact effect_nil job t
  | cons p ps ih =>
    simp only [processAll]
    generalize hx : processFile job t p = x
    have h : Processed job t p x := hx ▸ processed job t p
    cases h with
    | unreadable hf =>
      refine (ih hfiles.tail).cons_unchanged rfl rfl fun bytes progress hexamine _ => ?_
      rw [hf] at hexamine
      cases hexamine
    | unchanged hexamine hm =>
      refine (ih hfiles.tail).cons_unchanged rfl
        (by simp [Progress.stats, Stats.ofOutcome, hm]) fun bytes progress hexamine' hm' => ?_
      rw [hexamine] at hexamine'
      cases hexamine'
      simp [hm] at hm'
    | previewed _ _ hdry => simp [hwet] at hdry
    | notCopied =>
      exact (ih hfiles.tail).cons_unchanged rfl rfl fun _ _ _ _ => ⟨_, List.mem_singleton.2 rfl⟩
    | replaced hexamine hm _ hr =>
      exact (ih (hfiles.tail.keeps hr.keeps)).cons_replaced hr hexamine hm hfiles

/-! ## Whole runs -/

/-- The order in which statistics list things does not matter for the effect. -/
theorem Effect.perm (h : Effect job ps t s t') (hbackups : s₁.backups.Perm s.backups)
    (hlisted : s₁.modifiedFiles.Perm s.modifiedFiles) (herrors : s₁.errors.Perm s.errors) :
    Effect job ps t s₁ t' where
  keeps := h.keeps
  candidate b hb := h.candidate b (hbackups.mem_iff.1 hb)
  backed b hb := h.backed b (hbackups.mem_iff.1 hb)
  complete p hp bytes progress hexamine hm := by
    simpa only [hbackups.mem_iff, herrors.mem_iff] using h.complete p hp bytes progress hexamine hm
  listed := (hlisted.trans h.listed).trans (hbackups.symm.map _)
  files := hbackups.symm.pairwise h.files fun h => h.symm
  copies := hbackups.symm.pairwise h.copies fun h => h.symm
  frame l hsome hother := h.frame l hsome fun b hb => hother b (hbackups.mem_iff.2 hb)
  created l hnone hsome :=
    let ⟨b, hb, hcopy⟩ := h.created l hnone hsome
    ⟨b, hbackups.mem_iff.2 hb, hcopy⟩

/-- The effect of a run that writes. -/
theorem run_effect {catalog : Catalog} {checker? : Option Checker} {config : RunConfig}
    {cancelled : Bool} {r : Result} (hwet : config.dryRun = false)
    (h : run catalog checker? config cancelled t = .ok r) :
    ∃ p, plan catalog checker? config t = .ok p
      ∧ Effect p.job (p.processed cancelled) t r.stats r.tree := by
  obtain ⟨p, hp, rfl⟩ := run_eq_ok h
  refine ⟨p, hp, ?_⟩
  have hfiles := distinctFiles_of_plan hp cancelled
  obtain ⟨-, rfl⟩ := plan_eq_ok hp
  have heffect := effect_processAll hwet hfiles
  obtain ⟨note, hnote⟩ := noteCancelled_eq cancelled p.files.length
    (processAll p.job t (p.processed cancelled)).1.normalize
  simp only [Plan.carryOut, hnote]
  exact heffect.perm (List.mergeSort_perm _ _) (List.mergeSort_perm _ _) (List.mergeSort_perm _ _)

/-! ## A run on two files -/

/-- A step with one rule that makes every `a` a `b`. -/
def sampleStep : Step where
  name := "s"
  description := ""
  priority := 1
  rules := [{ name := "r", pattern := ⟨"a", .take (.single 'a'), []⟩, transform := .literal "b" }]

/-- A file and what looks like an earlier backup of it. -/
def sampleTree : Tree :=
  (Tree.empty.put ["a.ts"] (.file "aa".toUTF8)).put ["a.ts.bak"] (.file "x".toUTF8)

/-- The backup of the file gets a name that is free. -/
theorem run_effect_sample :
    ∃ r, run ⟨[sampleStep]⟩ none { target := ⟨"."⟩ } false sampleTree = .ok r
      ∧ r.stats.backups = [⟨⟨"./a.ts"⟩, ⟨"./a.ts.bak.1"⟩⟩]
      ∧ ∃ p, plan ⟨[sampleStep]⟩ none { target := ⟨"."⟩ } sampleTree = .ok p
        ∧ Effect p.job (p.processed false) sampleTree r.stats r.tree := by
  have hbackups : ((run ⟨[sampleStep]⟩ none { target := ⟨"."⟩ } false sampleTree).toOption.map
      fun r => r.stats.backups) = some [⟨⟨"./a.ts"⟩, ⟨"./a.ts.bak.1"⟩⟩] := by
    decide +kernel
  cases h : run ⟨[sampleStep]⟩ none { target := ⟨"."⟩ } false sampleTree with
  | error e => simp [h, Except.toOption] at hbackups
  | ok r =>
    refine ⟨r, rfl, ?_, run_effect rfl h⟩
    simpa [h, Except.toOption] using hbackups

end SourceMend.Run
