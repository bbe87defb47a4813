import SourceMend.Proofs.Run.Independence
import SourceMend.Proofs.Tree.Below

/-!
# The names under which files are reported

Every candidate of a run is below the base that it is shown from (`exists_below`), and every entry
in the statistics of a run names the candidate whose turn it comes from
(`Contribution.eq_shown`).  The names tell the candidates apart and lead back to them, as long as
no name below the base has a backslash or is not UTF-8 (`run_names_files`).  A backslash is shown as
a slash, so a file `a\b.ts` and a file `b.ts` in a directory `a` are both shown as `a/b.ts`, and
every byte that begins no character is shown as the same replacement character (`names_collide`).
-/

namespace SourceMend

namespace Stats

/-- What statistics list under the name of a file. -/
inductive Entry where
  /-- A file that was modified. -/
  | modified (file : String)
  /-- A file that could not be processed. -/
  | error (failure : Failure)
  /-- A rule that failed on a file. -/
  | ruleFailure (failure : Failure)
  /-- The change that a dry run would make to a file. -/
  | preview (change : Preview)
  deriving DecidableEq

/-- The name of the file. -/
def Entry.file : Entry → String
  | .modified file => file
  | .error failure => failure.file
  | .ruleFailure failure => failure.file
  | .preview change => change.file

variable {a b s : Stats} {x : Entry} {ss : List Stats}

/-- Everything that is listed under the name of a file. -/
def entries (s : Stats) : List Entry :=
  s.modifiedFiles.map .modified ++ s.errors.map .error ++ s.ruleFailures.map .ruleFailure
    ++ s.previews.map .preview

theorem mem_entries_merge : x ∈ (a.merge b).entries ↔ x ∈ a.entries ∨ x ∈ b.entries := by
  simp only [entries, merge, List.map_append, List.mem_append]
  tauto

theorem mem_entries_sum (h : x ∈ (sum ss).entries) : ∃ s ∈ ss, x ∈ s.entries := by
  induction ss with
  | nil => cases h
  | cons s ss ih =>
    rcases mem_entries_merge.1 h with h | h
    · exact ⟨s, List.mem_cons_self, h⟩
    · obtain ⟨s', hs', hx⟩ := ih h
      exact ⟨s', List.mem_cons_of_mem s hs', hx⟩

theorem mem_entries_normalize : x ∈ s.normalize.entries ↔ x ∈ s.entries := by
  simp [entries, normalize]

end Stats

namespace Run

variable {job : Job} {t : Tree} {p q target base : Path} {ns : List RawText} {s : Stats}
  {x : Stats.Entry} {extensions excluded : List String}

/-! ## Entries of the statistics -/

theorem eq_of_mem_entries_failed {shown : String} {e : FileError}
    (hx : x ∈ (failed shown e).entries) : shown = x.file := by
  obtain rfl : x = .error ⟨shown, e.message⟩ := by
    simpa [Stats.entries, failed, Stats.ofFailure] using hx
  rfl

theorem eq_of_mem_entries_stats {progress : Progress} {shown : String}
    (hx : x ∈ (progress.stats shown).entries) : shown = x.file := by
  simp only [Stats.entries, Progress.stats, Stats.ofOutcome, List.mem_append, List.mem_map] at hx
  rcases hx with ((⟨n, hn, rfl⟩ | ⟨_, he, -⟩) | ⟨_, he, rfl⟩) | ⟨_, hv, -⟩
  · split at hn
    · exact (List.mem_singleton.1 hn).symm
    · cases hn
  · cases he
  · obtain ⟨f, -, rfl⟩ := he
    rfl
  · cases hv

/-- A file is listed under the name that it is shown by. -/
theorem Contribution.eq_shown (h : Contribution job t p s) (hx : x ∈ s.entries) :
    p.shown job.base = x.file := by
  cases h with
  | unreadable => exact eq_of_mem_entries_failed hx
  | unchanged => exact eq_of_mem_entries_stats hx
  | @previewed bytes progress =>
    unfold Run.previewed at hx
    split at hx
    · rw [Stats.entries, List.map_append, ← List.append_assoc, List.mem_append] at hx
      rcases hx with hx | hx
      · exact eq_of_mem_entries_stats hx
      · rw [List.mem_singleton.1 hx]
        rfl
    · exact eq_of_mem_entries_stats hx
  | notCopied => exact eq_of_mem_entries_failed hx
  | replaced => exact eq_of_mem_entries_stats hx

/-! ## Candidates below the base -/

/-- A candidate is below the base that it is shown from. -/
theorem exists_below (h : p ∈ t.discover target extensions excluded) :
    ∃ ns, Path.Below (baseOf t target) p ns := by
  obtain ⟨l, ns, hl, hns, rfl⟩ := Tree.exists_candidate h
  obtain ⟨bytes, hfile⟩ := hns.file
  have hnames := Tree.isName_of_get? hfile
  by_cases hne : ns = []
  · -- the candidate is the target itself, so the base is its parent
    subst hne
    rw [List.append_nil] at hfile hnames
    have htarget : t.hasFile target = true := Tree.hasFile_eq_true.2 ⟨l, bytes, hl, hfile⟩
    obtain rfl | ⟨d, n, rfl⟩ := List.eq_nil_or_concat l
    · cases (Tree.get?_nil t).symm.trans hfile
    rw [List.concat_eq_append] at hl hfile hnames
    have hn : target.fileName? = some n := by
      rw [Tree.fileName?_of_locate hl hfile, List.getLast?_concat]
    obtain ⟨q, hparent, hcomponents⟩ := Path.parent?_of_fileName? hn
    refine ⟨[n], ?_, fun m hm => hnames m (List.mem_append_right d hm), List.cons_ne_nil n []⟩
    rw [baseOf, if_pos htarget, hparent]
    exact hcomponents
  · -- nothing is below a file, so the base is the target
    have htarget : ¬ t.hasFile target = true := by
      intro htarget
      obtain ⟨m, held, hm, hheld⟩ := Tree.hasFile_eq_true.1 htarget
      obtain rfl : l = m := Except.ok.inj (hl.symm.trans hm)
      exact hne (Tree.eq_nil_of_get?_append hheld (by simp [hfile]))
    have hbelow : ∀ m ∈ ns, Tree.isName m = true := fun m hm =>
      hnames m (List.mem_append_right l hm)
    rw [baseOf, if_neg htarget]
    exact ⟨ns, Path.components_foldl_child hbelow target, hbelow, hne⟩

/-! ## What is shown -/

/-- That every name on the way from `base` to the file at `p` is a string without backslashes. -/
def PlainlyNamed (t : Tree) (base p : Path) : Prop :=
  ∀ ns, t.locate p = .ok (t.aim base ++ ns) → ∀ n ∈ ns, ∃ s : String, n = s ∧ '\\' ∉ s.toList

theorem plainlyNamed_iff (h : t.locate p = .ok (t.aim base ++ ns)) :
    PlainlyNamed t base p ↔ ∀ n ∈ ns, ∃ s : String, n = s ∧ '\\' ∉ s.toList := by
  refine ⟨fun hplain => hplain ns h, fun hclear ms hms => ?_⟩
  obtain rfl : ns = ms := List.append_cancel_left (Except.ok.inj (h.symm.trans hms))
  exact hclear

/-- What is shown for a file leads back to it, unless a backslash is shown as a slash or what is not
UTF-8 as replacement characters. -/
theorem locate_join_shown_iff {l : Location} (h : Path.Below base p ns) (hl : t.locate p = .ok l) :
    t.locate (base.join ⟨p.shown base⟩) = t.locate p ↔ PlainlyNamed t base p := by
  rw [plainlyNamed_iff (Tree.locate_below h hl)]
  constructor
  case mp =>
    -- the names are pieces of what is shown, which is a string without backslashes
    intro hback n hn
    have hpiece := Tree.mem_pieces_of_locate_join h hl (hback.trans hl) hn
    rw [h.shown_eq] at hpiece
    obtain ⟨cs, hcs, hbytes⟩ := RawText.exists_of_mem_pieces hpiece
    refine ⟨.ofList cs, RawText.ext hbytes, fun hmem => ?_⟩
    rw [String.toList_ofList] at hmem
    exact Path.backslash_not_mem_slashed _ (Text.mem_of_mem_pieces hcs hmem).1
  case mpr =>
    intro hclear
    obtain ⟨s, htext, hs⟩ := Path.exists_text_along hclear
    have hshown : p.shown base = s := by
      rw [h.shown_eq, Path.display, htext, RawText.lossy_ofString, Path.slashed_eq_self hs]
    rw [hshown, ← htext, hl]
    exact Tree.locate_join_along h hl

/-- Every entry in the statistics of a run comes from the turn of a candidate that is shown by its
name. -/
theorem exists_of_mem_entries {plan : Plan} {cancelled : Bool}
    (h : t.DistinctFiles (plan.processed cancelled))
    (hx : x ∈ (plan.carryOut cancelled t).stats.entries) :
    ∃ p ∈ plan.processed cancelled, p.shown plan.job.base = x.file
      ∧ x ∈ (inTurn plan.job t (plan.processed cancelled) p).entries := by
  obtain ⟨note, hnote⟩ := noteCancelled_eq cancelled plan.files.length
    (processAll plan.job t (plan.processed cancelled)).1.normalize
  have hsum : x ∈ (processAll plan.job t (plan.processed cancelled)).1.normalize.entries := by
    simp only [Plan.carryOut, hnote] at hx
    exact hx
  rw [Stats.mem_entries_normalize, processAll_stats_inTurn plan.job h] at hsum
  obtain ⟨s, hs, hx⟩ := Stats.mem_entries_sum hsum
  obtain ⟨p, hp, rfl⟩ := List.mem_map.1 hs
  exact ⟨p, hp, (contribution_inTurn h hp).eq_shown hx, hx⟩

/-- The names in the statistics of a run tell its files apart, unless they have backslashes or are
not UTF-8.  Every candidate is shown by the names that lead to it from the base, with slashes
between them and for the backslashes in them, and with replacement characters for what is not UTF-8.
Read from the base, this leads to the candidate exactly if all these names are strings without
backslashes.  Two candidates of which this is true are shown by different names.  Every entry comes
from the turn of a candidate that is shown by the name of the entry. -/
theorem run_names_files (t : Tree) (config : RunConfig) :
    let base := baseOf t config.target
    let files := t.discover config.target config.extensions config.excluded
    (∀ p ∈ files, ∃ ns, ns ≠ [] ∧ t.locate p = .ok (t.aim base ++ ns)
        ∧ p.shown base = Path.slashed (Path.along ns).display)
      ∧ (∀ p ∈ files, t.locate (base.join ⟨p.shown base⟩) = t.locate p ↔ PlainlyNamed t base p)
      ∧ (∀ p ∈ files, ∀ q ∈ files, PlainlyNamed t base p → PlainlyNamed t base q → p ≠ q →
        p.shown base ≠ q.shown base)
      ∧ ∀ (catalog : Catalog) (checker? : Option Checker) (cancelled : Bool) (r : Result),
        run catalog checker? config cancelled t = .ok r →
        ∃ plan, Run.plan catalog checker? config t = .ok plan ∧ ∀ x ∈ r.stats.entries,
          ∃ p ∈ files, p.shown base = x.file
            ∧ x ∈ (inTurn plan.job t (plan.processed cancelled) p).entries := by
  intro base files
  have hback : ∀ p ∈ files,
      t.locate (base.join ⟨p.shown base⟩) = t.locate p ↔ PlainlyNamed t base p := by
    intro p hp
    obtain ⟨ns, hbelow⟩ := exists_below hp
    obtain ⟨l, -, hl, -⟩ := Tree.exists_of_mem_discover hp
    exact locate_join_shown_iff hbelow hl
  refine ⟨fun p hp => ?_, hback, fun p hp q hq hplain hplain' hne hshown => ?_, ?_⟩
  · obtain ⟨ns, hbelow⟩ := exists_below hp
    obtain ⟨l, -, hl, -⟩ := Tree.exists_of_mem_discover hp
    exact ⟨ns, hbelow.ne_nil, Tree.locate_below hbelow hl, hbelow.shown_eq⟩
  · -- the one name leads to both files
    refine hne ((Tree.distinctFiles_discover t _ _ _).eq_of_locate_eq hp hq ?_)
    rw [← (hback p hp).2 hplain, ← (hback q hq).2 hplain', hshown]
  · intro catalog checker? cancelled r hrun
    obtain ⟨plan, hplan, rfl⟩ := run_eq_ok hrun
    refine ⟨plan, hplan, fun x hx => ?_⟩
    obtain ⟨p, hp, hshown, hlisted⟩ :=
      exists_of_mem_entries (distinctFiles_of_plan hplan cancelled) hx
    rw [(plan_job hplan).2.1] at hshown
    exact ⟨p, mem_discover_of_mem_processed hplan hp, hshown, hlisted⟩

/-- A name of a file that is not UTF-8: a byte that begins no character, and an extension. -/
def faultyName (b : UInt8) : RawText := ⟨[b]⟩ ++ ".ts"

/-- A directory `a` with a file `b.ts`, and beside it files `a\\b.ts` and `c.ts` and two files with
names that are not UTF-8. -/
def slashTree : Tree :=
  let file := Entry.file "a".toUTF8
  ((((Tree.empty.put ["a"] .directory).put ["a", "b.ts"] file).put ["a\\b.ts"] file).put ["c.ts"]
    file).put [faultyName 0xFE] file |>.put [faultyName 0xFF] file

/-- The candidates of a run over the root directory of the tree. -/
theorem mem_discover_slashTree (hl : slashTree.locate target = .ok [])
    (hp : p ∈ ((slashTree.filesBelow [] defaultExcluded).map fun ns =>
      ns.foldl Path.child target).filter fun p => p.hasExtension defaultExtensions) :
    p ∈ slashTree.discover target defaultExtensions defaultExcluded :=
  (Tree.discover_perm hl rfl).mem_iff.2 hp

/-- Two files below a directory with a `..` in its path are shown by different names, which lead
back to them, and a file that is the target itself is listed under its name. -/
theorem run_names_files_plain :
    ⟨"a/../a/b.ts"⟩ ∈ slashTree.discover ⟨"a/.."⟩ defaultExtensions defaultExcluded
      ∧ ⟨"a/../c.ts"⟩ ∈ slashTree.discover ⟨"a/.."⟩ defaultExtensions defaultExcluded
      ∧ Path.shown ⟨"a/../a/b.ts"⟩ ⟨"a/.."⟩ ≠ Path.shown ⟨"a/../c.ts"⟩ ⟨"a/.."⟩
      ∧ slashTree.locate (Path.join ⟨"a/.."⟩ ⟨Path.shown ⟨"a/../a/b.ts"⟩ ⟨"a/.."⟩⟩)
        = slashTree.locate ⟨"a/../a/b.ts"⟩
      ∧ ∃ r, run ⟨[sampleStep]⟩ none { target := ⟨"a/b.ts"⟩ } false slashTree = .ok r
        ∧ r.stats.entries = [.modified "b.ts"]
        ∧ ∃ p ∈ slashTree.discover ⟨"a/b.ts"⟩ defaultExtensions defaultExcluded,
          p.shown ⟨"a"⟩ = "b.ts" := by
  have hroot : slashTree.locate ⟨"a/.."⟩ = .ok [] := by decide +kernel
  have hbase : baseOf slashTree ⟨"a/.."⟩ = ⟨"a/.."⟩ := by decide +kernel
  have hb := mem_discover_slashTree hroot (show ⟨"a/../a/b.ts"⟩ ∈ _ by decide +kernel)
  have hc := mem_discover_slashTree hroot (show ⟨"a/../c.ts"⟩ ∈ _ by decide +kernel)
  have hleads : slashTree.locate ⟨"a/../a/b.ts"⟩
      = .ok (slashTree.aim ⟨"a/.."⟩ ++ (["a", "b.ts"] : Location)) := by decide +kernel
  have hleads' : slashTree.locate ⟨"a/../c.ts"⟩
      = .ok (slashTree.aim ⟨"a/.."⟩ ++ (["c.ts"] : Location)) := by decide +kernel
  have hplain := (plainlyNamed_iff hleads).2 (List.forall_mem_cons.2 ⟨⟨"a", rfl, by decide⟩,
    List.forall_mem_singleton.2 ⟨"b.ts", rfl, by decide⟩⟩)
  have hplain' := (plainlyNamed_iff hleads').2
    (List.forall_mem_singleton.2 ⟨"c.ts", rfl, by decide⟩)
  obtain ⟨-, hback, hdistinct, -⟩ := run_names_files slashTree { target := ⟨"a/.."⟩ }
  simp only [hbase] at hback hdistinct
  refine ⟨hb, hc, hdistinct _ hb _ hc hplain hplain' (by decide), (hback _ hb).2 hplain, ?_⟩
  have hbase' : baseOf slashTree ⟨"a/b.ts"⟩ = ⟨"a"⟩ := by decide +kernel
  have hnames : ((run ⟨[sampleStep]⟩ none { target := ⟨"a/b.ts"⟩ } false
      slashTree).toOption.map fun r => r.stats.entries) = some [.modified "b.ts"] := by
    decide +kernel
  obtain ⟨r, hr, hlisted⟩ := exists_ok_of_toOption_map hnames
  obtain ⟨-, -, -, hruns⟩ := run_names_files slashTree { target := ⟨"a/b.ts"⟩ }
  obtain ⟨plan, -, hturns⟩ := hruns _ _ _ r hr
  obtain ⟨p, hp, hshown, -⟩ := hturns (.modified "b.ts") (hlisted ▸ List.mem_singleton.2 rfl)
  exact ⟨r, hr, hlisted, p, hp, hbase' ▸ hshown⟩

/-- Two files are shown by one name, and it leads to one of them only.  Two others are shown by one
name that leads to neither. -/
theorem names_collide :
    let base := baseOf slashTree ⟨"."⟩
    let files := slashTree.discover ⟨"."⟩ defaultExtensions defaultExcluded
    (⟨"./a/b.ts"⟩ ∈ files ∧ ⟨"./a\\b.ts"⟩ ∈ files
        ∧ slashTree.locate ⟨"./a/b.ts"⟩ ≠ slashTree.locate ⟨"./a\\b.ts"⟩
        ∧ Path.shown ⟨"./a/b.ts"⟩ base = Path.shown ⟨"./a\\b.ts"⟩ base
        ∧ slashTree.locate (base.join ⟨Path.shown ⟨"./a\\b.ts"⟩ base⟩)
          ≠ slashTree.locate ⟨"./a\\b.ts"⟩)
      ∧ ⟨"./" ++ faultyName 0xFE⟩ ∈ files ∧ ⟨"./" ++ faultyName 0xFF⟩ ∈ files
      ∧ Path.shown ⟨"./" ++ faultyName 0xFE⟩ base = Path.shown ⟨"./" ++ faultyName 0xFF⟩ base
      ∧ slashTree.has (base.join ⟨Path.shown ⟨"./" ++ faultyName 0xFF⟩ base⟩) = false := by
  have hroot : slashTree.locate ⟨"."⟩ = .ok [] := by decide +kernel
  exact ⟨⟨mem_discover_slashTree hroot (by decide +kernel),
    mem_discover_slashTree hroot (by decide +kernel), by decide +kernel, by decide +kernel,
    by decide +kernel⟩, mem_discover_slashTree hroot (by decide +kernel),
    mem_discover_slashTree hroot (by decide +kernel), by decide +kernel, by decide +kernel⟩

end Run
end SourceMend
