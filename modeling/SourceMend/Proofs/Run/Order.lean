import SourceMend.Proofs.Run.Accounting
import SourceMend.Proofs.Run.Independence
import SourceMend.Proofs.Tree.Alike
import SourceMend.Proofs.Tree.Copy

/-!
# The order of the files

Files that are processed in another order come to the same, unless they get in
each other's way (`Uncontested`): two of them want their copies at one place, or
a dry run shows two of them under one name.  The step of the proof is that one
file does the same before and after another one (`processFile_keeps`), and so two
neighbours can trade places (`processFile_comm`).
-/

namespace SourceMend.Run

variable {job : Job} {t t' : Tree} {p q : Path} {ps qs : List Path} {l : Location}

/-! ## One file in two trees -/

/-- Whether the steps change a file. -/
def Changed (job : Job) (t : Tree) (p : Path) : Prop :=
  ∃ bytes progress, examine job t p = .ok (bytes, progress) ∧ progress.outcome.modified = true

/-- A place for the copy of a file, should it be written. -/
structure Clear (job : Job) (t t' : Tree) (p : Path) : Prop where
  /-- No directory is missing on the way to the copy. -/
  found : job.config.dryRun = false → Changed job t p →
    Backup.place t job.config.backup p ≠ .error .notFound
  /-- Nothing has come where the copy goes. -/
  free : job.config.dryRun = false → Changed job t p →
    ∀ c, Backup.place t job.config.backup p = .ok c → t'.get? c = none

/-- What a file does to one tree and to another. -/
inductive Parallel (job : Job) (p : Path) (l : Location) (t t' : Tree) : Tree → Tree → Prop where
  /-- Both stay as they are. -/
  | none : Parallel job p l t t' t t'
  /-- The file is replaced alike after being copied to the same place. -/
  | replaced {copy : Path} {old new : ByteArray} {c : Location} {u u' : Tree} :
      job.config.dryRun = false → Changed job t p → Backup.place t job.config.backup p = .ok c →
      t.Replaces p copy old new l c u → t'.Replaces p copy old new l c u' →
      Parallel job p l t t' u u'

/-- A changed file is overwritten alike in a tree that keeps the tree. -/
theorem overwrite_keeps {bytes : ByteArray} (text : Text) (shown : String) (s : Stats)
    (h : t.Keeps t') (hl : t.locate p = .ok l) (hget : t'.get? l = t.get? l)
    (hclear : Clear job t t' p) (hwet : job.config.dryRun = false) (hchanged : Changed job t p)
    (hpermit : Tree.permit p = .ok ()) (hfile : t.get? l = some (.file bytes)) :
    (overwrite job t' p bytes text shown s).1 = (overwrite job t p bytes text shown s).1
      ∧ Parallel job p l t t' (overwrite job t p bytes text shown s).2
        (overwrite job t' p bytes text shown s).2 := by
  have hread : t.read p = .ok bytes := Tree.read_eq_ok.2 ⟨l, hl, hfile⟩
  cases hw : Backup.write t p bytes job.config.backup with
  | error f =>
    have hplace := Backup.place_of_write_error hread hw
    have hf : f ≠ .notFound := fun hf => hclear.found hwet hchanged (hplace.trans (hf ▸ rfl))
    have hw' := Backup.write_error_keeps h hw hf
    unfold overwrite
    rw [hw, hw']
    exact ⟨rfl, .none⟩
  | ok x =>
    obtain ⟨⟨file, copy⟩, t₁⟩ := x
    obtain ⟨rfl, c, hc, hfree, rfl⟩ := Backup.write_eq_ok hw
    have hplace := (Backup.place_of_write hread hw).trans hc
    have hfree' := hclear.free hwet hchanged c hplace
    have hw' := Backup.write_keeps h hw hc hfree'
    have hc' : t'.locateNew copy = .ok c := by rw [h.locateNew_eq (by simp [hc]), hc]
    obtain ⟨u, hr, hu⟩ := overwrite_of_write text shown s hpermit hl hfile hc hfree hw
    obtain ⟨u', hr', hu'⟩ := overwrite_of_write text shown s hpermit (h.locate hl)
      (hget.trans hfile) hc' hfree' hw'
    rw [hu, hu']
    exact ⟨rfl, .replaced hwet hchanged hplace hr hr'⟩

/-- A file does the same in a tree that keeps the tree. -/
theorem processFile_keeps (h : t.Keeps t') (hl : t.locate p = .ok l) (hget : t'.get? l = t.get? l)
    (hclear : Clear job t t' p) :
    (processFile job t' p).1 = (processFile job t p).1
      ∧ Parallel job p l t t' (processFile job t p).2 (processFile job t' p).2 := by
  have hsame : examine job t' p = examine job t p := examine_congr h hl hget
  unfold processFile
  rw [hsame]
  cases hok : examine job t p with
  | error f => exact ⟨rfl, .none⟩
  | ok x =>
    obtain ⟨bytes, progress⟩ := x
    by_cases hm : progress.outcome.modified = true
    · by_cases hdry : job.config.dryRun = true
      · simp only [hm, hdry]
        exact ⟨rfl, .none⟩
      · have hwet : job.config.dryRun = false := Bool.eq_false_iff.2 hdry
        obtain ⟨hpermit, hread⟩ := Tree.load_eq_ok.1 (examine_eq_ok hok).1
        obtain ⟨m, hm', hfile⟩ := Tree.read_eq_ok.1 hread
        obtain rfl := Except.ok.inj (hl.symm.trans hm')
        simp only [hm, hwet, Bool.not_true, Bool.false_eq_true, if_false]
        exact overwrite_keeps _ _ _ h hl hget hclear hwet ⟨bytes, progress, hok, hm⟩ hpermit hfile
    · simp only [hm]
      exact ⟨rfl, .none⟩

/-! ## Two files -/

/-- What two files do to a tree does not depend on which of them comes first. -/
theorem Parallel.comm {m : Location} {u v w w' : Tree} (hp : Parallel job p l t v u w)
    (hq : Parallel job q m t u v w') (hne : l ≠ m)
    (hcopies : job.config.dryRun = false → Changed job t p → Changed job t q →
      ∀ c, Backup.place t job.config.backup p = .ok c →
        Backup.place t job.config.backup q ≠ .ok c) : w = w' := by
  cases hq with
  | none =>
    cases hp with
    | none => rfl
    | replaced _ _ _ hr hr' => rw [hr.result, hr'.result]
  | replaced hwet hchanged hplace hr hr' =>
    cases hp with
    | none => rw [hr.result, hr'.result]
    | @replaced _ _ _ c _ _ _ hchanged₁ hplace₁ hr₁ hr₁' =>
      have hcopy := hcopies hwet hchanged₁ hchanged c hplace₁
      refine Tree.eq_of_get?_eq ?_ fun k => ?_
      · rw [hr₁'.keeps.here, hr.keeps.here, hr'.keeps.here, hr₁.keeps.here]
      · have hheld := hr.held
        have hheld₁ := hr₁.held
        have hfree := hr.free
        have hfree₁ := hr₁.free
        rw [hr₁'.get?_eq, hr.get?_eq, hr'.get?_eq, hr₁.get?_eq]
        grind

/-- Files that do not get in each other's way: no two of them have their copies at one place, no
directory is missing on the way to a copy, and no two of them are shown under one name. -/
structure Uncontested (job : Job) (t : Tree) (ps : List Path) : Prop where
  /-- Different files have their copies at different places. -/
  copies : job.config.dryRun = false → ∀ p ∈ ps, ∀ q ∈ ps, p ≠ q → Changed job t p →
    Changed job t q → ∀ c, Backup.place t job.config.backup p = .ok c →
      Backup.place t job.config.backup q ≠ .ok c
  /-- No directory is missing on the way to a copy. -/
  found : job.config.dryRun = false → ∀ p ∈ ps, Changed job t p →
    Backup.place t job.config.backup p ≠ .error .notFound
  /-- Different files are shown under different names. -/
  names : job.config.dryRun = true → job.config.diff = true → ∀ p ∈ ps, ∀ q ∈ ps, p ≠ q →
    Changed job t p → Changed job t q → p.shown job.base ≠ q.shown job.base

theorem Uncontested.perm (h : Uncontested job t ps) (hperm : ps.Perm qs) :
    Uncontested job t qs where
  copies hwet p hp q hq :=
    h.copies hwet p (hperm.mem_iff.2 hp) q (hperm.mem_iff.2 hq)
  found hwet p hp := h.found hwet p (hperm.mem_iff.2 hp)
  names hdry hdiff p hp q hq :=
    h.names hdry hdiff p (hperm.mem_iff.2 hp) q (hperm.mem_iff.2 hq)

/-- What becomes of a tree in which a file is processed. -/
theorem parallel_processFile (h : Uncontested job t ps) (hp : p ∈ ps) (hl : t.locate p = .ok l) :
    Parallel job p l t t (processFile job t p).2 (processFile job t p).2 :=
  (processFile_keeps (.refl t) hl rfl ⟨fun hwet => h.found hwet p hp,
    fun _ _ _ hc => Backup.get?_of_place hc⟩).2

/-- Another file leaves the place for the copy of a file clear. -/
theorem Uncontested.clear (h : Uncontested job t ps) (hfiles : t.DistinctFiles ps) (hp : p ∈ ps)
    (hq : q ∈ ps) (hne : p ≠ q) : Clear job t (processFile job t q).2 p where
  found hwet := h.found hwet p hp
  free hwet hchanged c hc := by
    have hfree := Backup.get?_of_place hc
    obtain ⟨m, _, hm, -⟩ := hfiles.file q hq
    generalize hx : (processFile job t q).2 = u
    have hq' : Parallel job q m t t u u := hx ▸ parallel_processFile h hq hm
    cases hq' with
    | none => exact hfree
    | @replaced _ _ _ k _ _ _ hchanged' hplace hr _ =>
      have hck : c ≠ k := by
        rintro rfl
        exact h.copies hwet p hp q hq hne hchanged hchanged' c hc hplace
      have hcm : c ≠ m := by
        rintro rfl
        simp [hr.held] at hfree
      rw [hr.get?_eq, if_neg hcm, if_neg hck, hfree]

/-- Another file leaves a file as it is. -/
theorem get?_processFile (h : Uncontested job t ps) (hfiles : t.DistinctFiles ps) (hp : p ∈ ps)
    (hq : q ∈ ps) (hne : p ≠ q) (hl : t.locate p = .ok l) :
    (processFile job t q).2.get? l = t.get? l := by
  obtain ⟨m, _, hm, -⟩ := hfiles.file q hq
  generalize hx : (processFile job t q).2 = u
  have hq' : Parallel job q m t t u u := hx ▸ parallel_processFile h hq hm
  cases hq' with
  | none => rfl
  | replaced _ _ _ hr _ =>
    have hlm : l ≠ m := by
      rintro rfl
      exact hne (hfiles.eq_of_locate_eq hp hq (hl.trans hm.symm))
    obtain ⟨l', _, hl', hfile⟩ := hfiles.file p hp
    obtain rfl := Except.ok.inj (hl.symm.trans hl')
    exact hr.get?_of_ne hlm (by simp [hfile])

/-- A file does the same after another one. -/
theorem processFile_after (h : Uncontested job t ps) (hfiles : t.DistinctFiles ps) (hp : p ∈ ps)
    (hq : q ∈ ps) (hne : p ≠ q) (hl : t.locate p = .ok l) :
    (processFile job (processFile job t q).2 p).1 = (processFile job t p).1
      ∧ Parallel job p l t (processFile job t q).2 (processFile job t p).2
        (processFile job (processFile job t q).2 p).2 := by
  obtain ⟨m, _, hm, -⟩ := hfiles.file q hq
  exact processFile_keeps (retains_processFile job t q).keeps hl
    (get?_processFile h hfiles hp hq hne hl) (h.clear hfiles hp hq hne)

/-- Two files can trade places. -/
theorem processFile_comm (h : Uncontested job t ps) (hfiles : t.DistinctFiles ps) (hp : p ∈ ps)
    (hq : q ∈ ps) (hne : p ≠ q) :
    (processFile job (processFile job t q).2 p).2
      = (processFile job (processFile job t p).2 q).2 := by
  obtain ⟨l, _, hl, -⟩ := hfiles.file p hp
  obtain ⟨m, _, hm, -⟩ := hfiles.file q hq
  refine (processFile_after h hfiles hp hq hne hl).2.comm
    (processFile_after h hfiles hq hp hne.symm hm).2 ?_ fun hwet => h.copies hwet p hp q hq hne
  rintro rfl
  exact hne (hfiles.eq_of_locate_eq hp hq (hl.trans hm.symm))

/-! ## All files -/

section Later

variable (h : Uncontested job t (p :: ps)) (hfiles : t.DistinctFiles (p :: ps))

include h hfiles

theorem get?_later (hq : q ∈ ps) (hl : t.locate q = .ok l) :
    (processFile job t p).2.get? l = t.get? l :=
  get?_processFile h hfiles (List.mem_cons_of_mem p hq) List.mem_cons_self
    (fun heq => (List.nodup_cons.1 hfiles.nodup).1 (heq ▸ hq)) hl

/-- What is changed after a file has been processed would have been changed before. -/
theorem changed_later (hq : q ∈ ps) (hchanged : Changed job (processFile job t p).2 q) :
    Changed job t q := by
  obtain ⟨l, _, hl, -⟩ := hfiles.tail.file q hq
  obtain ⟨bytes, progress, hok, hm⟩ := hchanged
  exact ⟨bytes, progress, examine_congr (retains_processFile job t p).keeps hl
    (get?_later h hfiles hq hl) ▸ hok, hm⟩

/-- The copy of a file goes to the same place after another file has been processed. -/
theorem place_later (hwet : job.config.dryRun = false) (hq : q ∈ ps)
    (hchanged : Changed job (processFile job t p).2 q) :
    Backup.place (processFile job t p).2 job.config.backup q
      = Backup.place t job.config.backup q := by
  obtain ⟨l, bytes, hl, hfile⟩ := hfiles.tail.file q hq
  have hkeeps := (retains_processFile job t p).keeps
  have hchanged := changed_later h hfiles hq hchanged
  have hclear := h.clear hfiles (List.mem_cons_of_mem p hq) List.mem_cons_self
    fun heq => (List.nodup_cons.1 hfiles.nodup).1 (heq ▸ hq)
  exact Backup.place_keeps hkeeps (Tree.read_eq_ok.2 ⟨l, hl, hfile⟩)
    (Tree.read_eq_ok.2 ⟨l, hkeeps.locate hl, (get?_later h hfiles hq hl).trans hfile⟩)
    (hclear.found hwet hchanged) (hclear.free hwet hchanged)

/-- Files that do not get in each other's way still do not when one of them has been processed. -/
theorem Uncontested.tail : Uncontested job (processFile job t p).2 ps where
  copies hwet q hq r hr hqr hcq hcr c := by
    rw [place_later h hfiles hwet hq hcq, place_later h hfiles hwet hr hcr]
    exact h.copies hwet q (List.mem_cons_of_mem p hq) r (List.mem_cons_of_mem p hr) hqr
      (changed_later h hfiles hq hcq) (changed_later h hfiles hr hcr) c
  found hwet q hq hcq := by
    rw [place_later h hfiles hwet hq hcq]
    exact h.found hwet q (List.mem_cons_of_mem p hq) (changed_later h hfiles hq hcq)
  names hdry hdiff q hq r hr hqr hcq hcr :=
    h.names hdry hdiff q (List.mem_cons_of_mem p hq) r (List.mem_cons_of_mem p hr) hqr
      (changed_later h hfiles hq hcq) (changed_later h hfiles hr hcr)

end Later

theorem cancelled_processFile (job : Job) (t : Tree) (p : Path) :
    (processFile job t p).1.cancelled = none :=
  ((processed job t p).contribution rfl).cancelled

/-- In another order files come to the same tree and to statistics that are alike. -/
theorem processAll_perm (hperm : ps.Perm qs) (h : Uncontested job t ps)
    (hfiles : t.DistinctFiles ps) :
    Stats.Alike (processAll job t ps).1 (processAll job t qs).1
      ∧ (processAll job t ps).2 = (processAll job t qs).2 := by
  induction hperm generalizing t with
  | nil => exact ⟨.refl _, rfl⟩
  | @cons p ps qs _ ih =>
    have hkeeps := (retains_processFile job t p).keeps
    obtain ⟨hstats, htree⟩ := ih (h.tail hfiles) (hfiles.tail.keeps hkeeps)
    exact ⟨hstats.merge _, htree⟩
  | swap p q ps =>
    have hne : p ≠ q := fun heq => (List.nodup_cons.1 hfiles.nodup).1 (heq ▸ List.mem_cons_self)
    have hp : p ∈ q :: p :: ps := List.mem_cons_of_mem q List.mem_cons_self
    have hq : q ∈ q :: p :: ps := List.mem_cons_self
    obtain ⟨l, _, hl, -⟩ := hfiles.file p hp
    obtain ⟨m, _, hm, -⟩ := hfiles.file q hq
    simp only [processAll, (processFile_after h hfiles hp hq hne hl).1,
      (processFile_after h hfiles hq hp hne.symm hm).1, processFile_comm h hfiles hp hq hne,
      and_true]
    exact .swap (cancelled_processFile job t q) _
  | @trans ps rs qs hpr _ ih ih' =>
    obtain ⟨hstats, htree⟩ := ih h hfiles
    obtain ⟨hstats', htree'⟩ := ih' (h.perm hpr) (hfiles.perm hpr)
    exact ⟨hstats.trans hstats', htree.trans htree'⟩

/-! ## What is listed -/

/-- Backups of files with alike paths are the same. -/
theorem backup_eq_of_alike (hfiles : t.DistinctFiles ps) {b b' : Backup}
    (hb : b ∈ (processAll job t ps).1.backups) (hb' : b' ∈ (processAll job t ps).1.backups)
    (h : b.file.Alike b'.file) : b = b' := by
  by_cases hdry : job.config.dryRun = true
  · rw [backups_of_dryRun hdry] at hb
    cases hb
  · have heffect := effect_processAll (Bool.eq_false_iff.2 hdry) hfiles
    obtain ⟨l, _, hl, -⟩ := hfiles.file _ (heffect.candidate b hb)
    obtain ⟨m, _, hm, -⟩ := hfiles.file _ (heffect.candidate b' hb')
    have : Std.Symm fun a b : Backup => t.locate a.file ≠ t.locate b.file :=
      ⟨fun _ _ h => h.symm⟩
    refine Classical.byContradiction fun hne => heffect.files.forall hb hb' hne ?_
    rw [hl, hm, Tree.locate_of_alike h hl hm]

/-- A file is previewed if it is changed and a dry run shows differences. -/
theorem mem_previews {v : Preview} (h : v ∈ (processFile job t p).1.previews) :
    v.file = p.shown job.base ∧ job.config.dryRun = true ∧ job.config.diff = true
      ∧ Changed job t p := by
  generalize hx : processFile job t p = x at h
  have hp : Processed job t p x := hx ▸ processed job t p
  cases hp with
  | unreadable => cases h
  | unchanged => cases h
  | @previewed bytes progress hok hm hdry =>
    by_cases hdiff : job.config.diff = true
    · rw [previewed, if_pos hdiff] at h
      obtain rfl := List.mem_singleton.1 h
      exact ⟨rfl, hdry, hdiff, bytes, progress, hok, hm⟩
    · rw [previewed, if_neg hdiff] at h
      cases h
  | notCopied => cases h
  | replaced => cases h

theorem length_previews_le (job : Job) (t : Tree) (p : Path) :
    (processFile job t p).1.previews.length ≤ 1 := by
  have h := (processed job t p).accounted
  rw [h.previews]
  split
  · have := h.found
    have := h.files
    omega
  · exact Nat.zero_le 1

theorem previews_of_dryRun (hdry : job.config.dryRun = true) (t : Tree) (ps : List Path) :
    (processAll job t ps).1.previews = ps.flatMap fun p => (processFile job t p).1.previews := by
  induction ps with
  | nil => rfl
  | cons p ps ih =>
    simp only [processAll, Stats.merge, List.flatMap_cons, ← ih, processFile_tree_of_dryRun hdry]

/-- Previews under one name are the same. -/
theorem preview_eq_of_file_eq (h : Uncontested job t ps) {v w : Preview}
    (hv : v ∈ (processAll job t ps).1.previews) (hw : w ∈ (processAll job t ps).1.previews)
    (hfile : v.file = w.file) : v = w := by
  by_cases hshown : (job.config.dryRun && job.config.diff) = true
  · obtain ⟨hdry, hdiff⟩ := Bool.and_eq_true_iff.1 hshown
    rw [previews_of_dryRun hdry, List.mem_flatMap] at hv hw
    obtain ⟨p, hp, hv⟩ := hv
    obtain ⟨q, hq, hw⟩ := hw
    obtain ⟨hvp, -, -, hcp⟩ := mem_previews hv
    obtain ⟨hwq, -, -, hcq⟩ := mem_previews hw
    have hpq : p = q := Classical.byContradiction fun hne =>
      h.names hdry hdiff p hp q hq hne hcp hcq (hvp.symm.trans (hfile.trans hwq))
    subst hpq
    have hlength := length_previews_le job t p
    match hlist : (processFile job t p).1.previews, hlength with
    | [], _ => rw [hlist] at hv; cases hv
    | [u], _ =>
      rw [hlist] at hv hw
      exact (List.mem_singleton.1 hv).trans (List.mem_singleton.1 hw).symm
  · have hnone := (accounted_processAll job t ps).previews
    rw [if_neg hshown] at hnone
    rw [List.length_eq_zero_iff.1 hnone] at hv
    cases hv

/-! ## Files that get in each other's way -/

theorem withoutCopies_expected (job : Job) (t : Tree) (p : Path) :
    (expected job t p).withoutCopies = expected job t p := by
  unfold expected
  split <;> rfl

theorem cancelled_expected (job : Job) (t : Tree) (p : Path) :
    (expected job t p).cancelled = none := by
  unfold expected
  split <;> rfl

/-- What all files come to is what is expected of each, if they can be copied. -/
theorem withoutCopies_processAll (hfiles : t.DistinctFiles ps)
    (hcopied : ∀ e ∈ (processAll job t ps).1.errors, e.isUncopied = false) :
    (processAll job t ps).1.withoutCopies = Stats.sum (ps.map (expected job t)) := by
  have hjob (dry : Bool) (h : job.config.dryRun = dry) : job.withDryRun dry = job := by
    rw [← h]
    rfl
  cases hdry : job.config.dryRun with
  | true =>
    have h := withoutCopies_processAll_dry job t ps
    rwa [hjob true hdry] at h
  | false =>
    have h := withoutCopies_processAll_wet job (.refl t) hfiles fun _ _ _ _ => rfl
    rw [hjob false hdry] at h
    exact h hcopied

/-- Whatever the order, the same files are modified, with the same fixes and the same failures. -/
theorem withoutCopies_normalize_perm (hperm : ps.Perm qs) (hfiles : t.DistinctFiles ps)
    (hps : ∀ e ∈ (processAll job t ps).1.errors, e.isUncopied = false)
    (hqs : ∀ e ∈ (processAll job t qs).1.errors, e.isUncopied = false) :
    (processAll job t ps).1.normalize.withoutCopies
      = (processAll job t qs).1.normalize.withoutCopies := by
  have hbare {s : Stats} (hs : s ∈ ps.map (expected job t)) : s.withoutCopies = s := by
    obtain ⟨p, -, rfl⟩ := List.mem_map.1 hs
    exact withoutCopies_expected job t p
  have halike := Stats.Alike.sum (hperm.map (expected job t)) fun s hs => by
    obtain ⟨p, -, rfl⟩ := List.mem_map.1 hs
    exact cancelled_expected job t p
  rw [Stats.withoutCopies_normalize, Stats.withoutCopies_normalize,
    withoutCopies_processAll hfiles hps, withoutCopies_processAll (hfiles.perm hperm) hqs]
  refine halike.normalize_eq (fun x hx => ?_) fun x hx => ?_
  · rw [Stats.backups_sum, List.mem_flatMap] at hx
    obtain ⟨s, hs, hx⟩ := hx
    rw [← hbare hs] at hx
    cases hx
  · rw [Stats.previews_sum, List.mem_flatMap] at hx
    obtain ⟨s, hs, hx⟩ := hx
    rw [← hbare hs] at hx
    cases hx

theorem copied_of_errors (hfiles : t.DistinctFiles ps) (hp : p ∈ ps)
    (herrors : ∀ e ∈ (processAll job t ps).1.errors, e.isUncopied = false) :
    Copied job t p (processAll job t ps).1 := by
  rintro new ⟨hwet, bytes, progress, hok, hm, -⟩
  rcases (effect_processAll hwet hfiles).complete p hp bytes progress hok hm with hb | ⟨f, hf⟩
  · exact hb
  · have huncopied : (notCopied job p f).isUncopied = true := by
      simp [notCopied, Failure.isUncopied, FileError.message]
    rw [herrors _ hf] at huncopied
    cases huncopied

/-- The files that are copied are those that change, if they can be copied. -/
theorem mem_files_of_backups_iff (hfiles : t.DistinctFiles ps)
    (herrors : ∀ e ∈ (processAll job t ps).1.errors, e.isUncopied = false) :
    p ∈ (processAll job t ps).1.backups.map Backup.file ↔ p ∈ ps ∧ ∃ new, Changes job t p new := by
  rw [List.mem_map]
  constructor
  · rintro ⟨b, hb, rfl⟩
    obtain ⟨hmem, -, hchanges⟩ := of_mem_backups hfiles hb
    exact ⟨hmem, hchanges⟩
  · rintro ⟨hp, new, hnew⟩
    exact copied_of_errors hfiles hp herrors new hnew

theorem nodup_files_of_backups (hfiles : t.DistinctFiles ps) :
    ((processAll job t ps).1.backups.map Backup.file).Nodup := by
  by_cases hdry : job.config.dryRun = true
  · rw [backups_of_dryRun hdry]
    exact .nil
  · have heffect := effect_processAll (Bool.eq_false_iff.2 hdry) hfiles
    exact List.pairwise_map.2 (heffect.files.imp fun hne heq => hne (congrArg t.locate heq))

/-- Whatever the order, the same files are copied. -/
theorem files_of_backups_perm (hperm : ps.Perm qs) (hfiles : t.DistinctFiles ps)
    (hps : ∀ e ∈ (processAll job t ps).1.errors, e.isUncopied = false)
    (hqs : ∀ e ∈ (processAll job t qs).1.errors, e.isUncopied = false) :
    ((processAll job t ps).1.normalize.backups.map Backup.file).Perm
      ((processAll job t qs).1.normalize.backups.map Backup.file) := by
  have hfiles' := hfiles.perm hperm
  have hsame : ((processAll job t ps).1.backups.map Backup.file).Perm
      ((processAll job t qs).1.backups.map Backup.file) :=
    (List.perm_ext_iff_of_nodup (nodup_files_of_backups hfiles)
      (nodup_files_of_backups hfiles')).2 fun p => by
        rw [mem_files_of_backups_iff hfiles hps, mem_files_of_backups_iff hfiles' hqs,
          hperm.mem_iff]
  exact (((List.mergeSort_perm _ _).map _).trans hsame).trans ((List.mergeSort_perm _ _).map _).symm

/-- Whatever the order, a file comes to hold the same. -/
theorem read_perm (hperm : ps.Perm qs) (hfiles : t.DistinctFiles ps) (hp : p ∈ ps)
    (hps : ∀ e ∈ (processAll job t ps).1.errors, e.isUncopied = false)
    (hqs : ∀ e ∈ (processAll job t qs).1.errors, e.isUncopied = false) :
    (processAll job t ps).2.read p = (processAll job t qs).2.read p := by
  have hfiles' := hfiles.perm hperm
  have hp' := hperm.mem_iff.1 hp
  by_cases hsome : ∃ new, Changes job t p new
  · obtain ⟨new, hnew⟩ := hsome
    rw [read_of_changes hfiles hnew (copied_of_errors hfiles hp hps new hnew),
      read_of_changes hfiles' hnew (copied_of_errors hfiles' hp' hqs new hnew)]
  · have hnone : ∀ new, ¬ Changes job t p new := fun new h => hsome ⟨new, h⟩
    rw [read_of_not_changes hfiles hp hnone, read_of_not_changes hfiles' hp' hnone]

/-- Whatever the order, the same comes to stand wherever something stood. -/
theorem get?_perm (hperm : ps.Perm qs) (hfiles : t.DistinctFiles ps)
    (hps : ∀ e ∈ (processAll job t ps).1.errors, e.isUncopied = false)
    (hqs : ∀ e ∈ (processAll job t qs).1.errors, e.isUncopied = false)
    (hsome : (t.get? l).isSome) :
    (processAll job t ps).2.get? l = (processAll job t qs).2.get? l := by
  have hfiles' := hfiles.perm hperm
  have hkeeps := (retains_processAll job t ps).keeps
  have hkeeps' := (retains_processAll job t qs).keeps
  by_cases hcandidate : ∃ p ∈ ps, t.locate p = .ok l
  · obtain ⟨p, hp, hl⟩ := hcandidate
    obtain ⟨m, old, hm, hfile⟩ := hfiles.file p hp
    obtain rfl := Except.ok.inj (hl.symm.trans hm)
    obtain ⟨new, hnew⟩ := hkeeps.file l old hfile
    obtain ⟨new', hnew'⟩ := hkeeps'.file l old hfile
    have hread := read_perm hperm hfiles hp hps hqs
    rw [Tree.read_eq_ok.2 ⟨l, hkeeps.locate hl, hnew⟩,
      Tree.read_eq_ok.2 ⟨l, hkeeps'.locate hl, hnew'⟩] at hread
    rw [hnew, hnew', Except.ok.inj hread]
  · by_cases hdry : job.config.dryRun = true
    · rw [processAll_tree_of_dryRun hdry, processAll_tree_of_dryRun hdry]
    · have hwet : job.config.dryRun = false := Bool.eq_false_iff.2 hdry
      have heffect := effect_processAll hwet hfiles
      have heffect' := effect_processAll hwet hfiles'
      rw [heffect.frame l hsome fun b hb hl => hcandidate ⟨_, heffect.candidate b hb, hl⟩,
        heffect'.frame l hsome fun b hb hl =>
          hcandidate ⟨_, hperm.mem_iff.2 (heffect'.candidate b hb), hl⟩]

/-! ## Whole runs -/

/-- The order in which a run processes its files shows at most in the names of the copies and in what
a dry run shows, unless a file cannot be copied.  It does not show at all if the files do not get in
each other's way. -/
theorem run_order {catalog : Catalog} {checker? : Option Checker} {config : RunConfig} {plan : Plan}
    (h : Run.plan catalog checker? config t = .ok plan) (hps : ps.Perm plan.files)
    (hqs : qs.Perm plan.files) :
    ((∀ e ∈ (processAll plan.job t ps).1.errors, e.isUncopied = false) →
      (∀ e ∈ (processAll plan.job t qs).1.errors, e.isUncopied = false) →
      (processAll plan.job t ps).1.normalize.withoutCopies
          = (processAll plan.job t qs).1.normalize.withoutCopies
        ∧ ((processAll plan.job t ps).1.normalize.backups.map Backup.file).Perm
          ((processAll plan.job t qs).1.normalize.backups.map Backup.file)
        ∧ ∀ l, (t.get? l).isSome →
          (processAll plan.job t ps).2.get? l = (processAll plan.job t qs).2.get? l)
    ∧ (Uncontested plan.job t plan.files →
      (processAll plan.job t ps).1.normalize = (processAll plan.job t qs).1.normalize
        ∧ (processAll plan.job t ps).2 = (processAll plan.job t qs).2) := by
  have hfiles : t.DistinctFiles ps := (distinctFiles_of_plan h false).perm hps.symm
  have hperm := hps.trans hqs.symm
  refine ⟨fun he he' => ⟨withoutCopies_normalize_perm hperm hfiles he he',
    files_of_backups_perm hperm hfiles he he', fun l => get?_perm hperm hfiles he he'⟩,
    fun huncontested => ?_⟩
  have huncontested := huncontested.perm hps.symm
  obtain ⟨halike, htree⟩ := processAll_perm hperm huncontested hfiles
  exact ⟨halike.normalize_eq (fun x hx y hy => backup_eq_of_alike hfiles hx hy)
    fun x hx y hy => preview_eq_of_file_eq huncontested hx hy, htree⟩

/-- Two files to change in one directory. -/
def pairTree (a b : String) : Tree :=
  (Tree.empty.put [a] (.file "a".toUTF8)).put [b] (.file "aa".toUTF8)

/-- Settings for a run on two files whose copies have names that end with `suffix`. -/
def pairConfig (suffix : String) : RunConfig :=
  { target := ⟨"."⟩, extensions := ["ts", "1"], backup := .suffix suffix }

/-- The candidates of a run on two files. -/
theorem discover_pair {a b : String} (hl : (pairTree a b).locate ⟨"."⟩ = .ok [])
    (h : (((pairTree a b).filesBelow [] defaultExcluded).map fun ns =>
      ns.foldl Path.child ⟨"."⟩).filter (fun p => p.hasExtension ["ts", "1"]) = [p, q]) :
    [p, q].Perm ((pairTree a b).discover ⟨"."⟩ ["ts", "1"] defaultExcluded) :=
  h ▸ (Tree.discover_perm hl rfl).symm

/-- Two files with copies of their own come to the same in both orders, and two that want one name
for their copies are both copied in either order. -/
theorem run_order_pair :
    (∃ plan, Run.plan ⟨[sampleStep]⟩ none (pairConfig "bak") (pairTree "a.ts" "b.ts") = .ok plan
      ∧ (processAll plan.job (pairTree "a.ts" "b.ts") [⟨"./a.ts"⟩, ⟨"./b.ts"⟩]).2
        = (processAll plan.job (pairTree "a.ts" "b.ts") [⟨"./b.ts"⟩, ⟨"./a.ts"⟩]).2)
    ∧ ∃ plan, Run.plan ⟨[sampleStep]⟩ none (pairConfig "1") (pairTree "a.ts" "a.ts.1") = .ok plan
      ∧ ((processAll plan.job (pairTree "a.ts" "a.ts.1")
            [⟨"./a.ts"⟩, ⟨"./a.ts.1"⟩]).1.normalize.backups.map Backup.file).Perm
          ((processAll plan.job (pairTree "a.ts" "a.ts.1")
            [⟨"./a.ts.1"⟩, ⟨"./a.ts"⟩]).1.normalize.backups.map Backup.file) := by
  refine ⟨?_, ?contested⟩
  case contested =>
    have hfiles : [⟨"./a.ts"⟩, ⟨"./a.ts.1"⟩].Perm
        ((pairTree "a.ts" "a.ts.1").discover ⟨"."⟩ ["ts", "1"] defaultExcluded) :=
      discover_pair (by decide +kernel) (by decide +kernel)
    have hplan : Run.plan ⟨[sampleStep]⟩ none (pairConfig "1") (pairTree "a.ts" "a.ts.1")
      = .ok _ := rfl
    exact ⟨_, hplan, ((run_order hplan hfiles ((List.Perm.swap _ _ _).trans hfiles)).1
      (by decide +kernel) (by decide +kernel)).2.1⟩
  have hfound : [⟨"./a.ts"⟩, ⟨"./b.ts"⟩].Perm
      ((pairTree "a.ts" "b.ts").discover ⟨"."⟩ ["ts", "1"] defaultExcluded) :=
    discover_pair (by decide +kernel) (by decide +kernel)
  have hplace : Backup.place (pairTree "a.ts" "b.ts") (.suffix "bak") ⟨"./a.ts"⟩
      = .ok ["a.ts.bak"] := by decide +kernel
  have hplace' : Backup.place (pairTree "a.ts" "b.ts") (.suffix "bak") ⟨"./b.ts"⟩
      = .ok ["b.ts.bak"] := by decide +kernel
  obtain ⟨plan, hplan⟩ : ∃ plan, Run.plan ⟨[sampleStep]⟩ none (pairConfig "bak")
    (pairTree "a.ts" "b.ts") = .ok plan := ⟨_, rfl⟩
  obtain ⟨hfiles, hconfig⟩ := plan_eq_ok hplan
  have hperm : [⟨"./a.ts"⟩, ⟨"./b.ts"⟩].Perm plan.files := hfiles ▸ hfound
  have hmem {p : Path} (hp : p ∈ plan.files) : p = ⟨"./a.ts"⟩ ∨ p = ⟨"./b.ts"⟩ := by
    simpa using hperm.mem_iff.2 hp
  refine ⟨plan, hplan, ((run_order hplan hperm ((List.Perm.swap _ _ _).trans hperm)).2 ?_).2⟩
  constructor
  case copies =>
    intro _ p hp q hq hne _ _ c hc hc'
    rw [hconfig] at hc hc'
    rcases hmem hp with rfl | rfl <;> rcases hmem hq with rfl | rfl
    · exact hne rfl
    · cases hplace.symm.trans hc
      exact absurd (Except.ok.inj (hplace'.symm.trans hc')) (by decide)
    · cases hplace'.symm.trans hc
      exact absurd (Except.ok.inj (hplace.symm.trans hc')) (by decide)
    · exact hne rfl
  case found =>
    intro _ p hp _ hnot
    rw [hconfig] at hnot
    rcases hmem hp with rfl | rfl
    · cases hplace.symm.trans hnot
    · cases hplace'.symm.trans hnot
  case names =>
    intro hdry
    rw [hconfig] at hdry
    cases hdry

/-- Two files that want one name for their copies come to different trees and different statistics
in both orders. -/
theorem order_shows :
    ∃ plan, Run.plan ⟨[sampleStep]⟩ none (pairConfig "1") (pairTree "a.ts" "a.ts.1") = .ok plan
      ∧ [⟨"./a.ts"⟩, ⟨"./a.ts.1"⟩].Perm plan.files ∧ [⟨"./a.ts.1"⟩, ⟨"./a.ts"⟩].Perm plan.files
      ∧ (processAll plan.job (pairTree "a.ts" "a.ts.1") [⟨"./a.ts"⟩, ⟨"./a.ts.1"⟩]).2
        ≠ (processAll plan.job (pairTree "a.ts" "a.ts.1") [⟨"./a.ts.1"⟩, ⟨"./a.ts"⟩]).2
      ∧ (processAll plan.job (pairTree "a.ts" "a.ts.1") [⟨"./a.ts"⟩, ⟨"./a.ts.1"⟩]).1.normalize
        ≠ (processAll plan.job (pairTree "a.ts" "a.ts.1")
          [⟨"./a.ts.1"⟩, ⟨"./a.ts"⟩]).1.normalize := by
  have hfiles : [⟨"./a.ts"⟩, ⟨"./a.ts.1"⟩].Perm
      ((pairTree "a.ts" "a.ts.1").discover ⟨"."⟩ ["ts", "1"] defaultExcluded) :=
    discover_pair (by decide +kernel) (by decide +kernel)
  refine ⟨_, rfl, hfiles, (List.Perm.swap _ _ _).trans hfiles, by decide +kernel, fun heq => ?_⟩
  have hbackups := ((List.mergeSort_perm _ _).symm.trans
    (.of_eq (congrArg Stats.backups heq))).trans (List.mergeSort_perm _ _)
  revert hbackups
  decide +kernel

end SourceMend.Run
