import SourceMend.Proofs.Path.Order
import SourceMend.Proofs.Text.Raw
import SourceMend.Proofs.Tree.Alike
import SourceMend.Proofs.Tree.Candidates

/-!
# What is discovered

Discovery lists exactly the candidates, in the strict order of their paths
(`discover_exact`).  Every candidate is the path of a file (`exists_of_mem_discover`), and
no two candidates are paths of the same file (`pairwise_discover`).  Both stay so
while files are created and written (`DistinctFiles.keeps`), and candidates stay
candidates (`mem_discover_of_keeps`).
-/

namespace SourceMend.Tree

variable {t : Tree} {p root : Path} {l m : Location} {ns : List RawText}
  {extensions excluded : List String}

/-- A candidate is the path of a file. -/
theorem exists_of_mem_discover (h : p ∈ t.discover root extensions excluded) :
    ∃ l bytes, t.locate p = .ok l ∧ t.get? l = some (.file bytes) := by
  obtain ⟨l, ns, hl, hns, rfl⟩ := exists_candidate h
  obtain ⟨bytes, hfile⟩ := hns.file
  exact ⟨l ++ ns, bytes, hns.locate hl, hfile⟩

/-- A candidate has one of the extensions. -/
theorem hasExtension_of_mem_discover (h : p ∈ t.discover root extensions excluded) :
    p.hasExtension extensions = true := by
  obtain ⟨l, ns, hl, hns, rfl⟩ := exists_candidate h
  obtain ⟨bytes, hfile⟩ := hns.file
  exact (hasExtension_iff_of_locate (hns.locate hl) hfile).2 hns.bears

/-- A candidate is the path that the search starts from only if that is the path of a file. -/
theorem hasFile_iff_of_mem_discover (h : p ∈ t.discover root extensions excluded) :
    t.hasFile root = true ↔ p = root := by
  constructor
  case mp =>
    intro hroot
    obtain ⟨m, held, hm, hg⟩ := hasFile_eq_true.1 hroot
    exact ((mem_discover_iff_of_file hm hg).1 h).1
  case mpr =>
    rintro rfl
    exact hasFile_eq_true.2 (exists_of_mem_discover h)

/-- Two candidates are paths of different files. -/
theorem pairwise_discover (t : Tree) (root : Path) (extensions excluded : List String) :
    (t.discover root extensions excluded).Pairwise fun p q => t.locate p ≠ t.locate q := by
  cases hl : t.locate root with
  | error f => simp [discover, hl]
  | ok l =>
    cases hg : t.get? l with
    | none => simp [discover, hl, hg]
    | some e =>
      cases e with
      | file bytes =>
        simp only [discover, hl, hg]
        split <;> simp
      | directory =>
        refine (discover_perm hl hg).symm.pairwise (List.Pairwise.filter _ ?_) fun h => h.symm
        refine List.pairwise_map.2 ((nodup_filesBelow t l excluded).imp_of_mem ?_)
        intro a b ha hb hab heq
        obtain ⟨-, ⟨_, hfa⟩, -⟩ := mem_filesBelow_iff.1 ha
        obtain ⟨-, ⟨_, hfb⟩, -⟩ := mem_filesBelow_iff.1 hb
        rw [locate_foldl_child hl hg hfa, locate_foldl_child hl hg hfb] at heq
        exact hab (List.append_cancel_left (Except.ok.inj heq))

/-- A candidate is one in every tree that keeps the tree. -/
theorem mem_discover_of_keeps {t' : Tree} (hkeeps : t.Keeps t')
    (h : p ∈ t.discover root extensions excluded) :
    p ∈ t'.discover root extensions excluded := by
  obtain ⟨l, ns, hl, hns, rfl⟩ := exists_candidate h
  obtain ⟨bytes, hfile⟩ := hns.file
  exact (mem_discover_iff (hkeeps.locate hl)).2
    ⟨ns, ⟨hkeeps.file _ bytes hfile, hns.bears, hns.entered⟩, rfl⟩

/-! ## The order of candidates -/

/-- What is discovered is sorted. -/
theorem pairwise_le_discover (t : Tree) (root : Path) (extensions excluded : List String) :
    (t.discover root extensions excluded).Pairwise fun p q => p.le q = true := by
  unfold discover
  split
  · exact .nil
  · split
    · split
      · exact List.pairwise_singleton _ _
      · exact .nil
    · exact Path.ranking_le.pairwise_mergeSort _
    · exact .nil

/-- Every candidate comes before the next, and they are different files. -/
theorem pairwise_compare_discover (t : Tree) (root : Path) (extensions excluded : List String) :
    (t.discover root extensions excluded).Pairwise
      fun p q => p.compare q = .lt ∧ t.locate p ≠ t.locate q := by
  refine ((pairwise_le_discover t root extensions excluded).and
    (pairwise_discover t root extensions excluded)).imp_of_mem ?_
  rintro p q hp hq ⟨hle, hne⟩
  refine ⟨?_, hne⟩
  cases hcompare : p.compare q with
  | lt => rfl
  | gt => simp [Path.le, hcompare] at hle
  | eq =>
    -- Paths that tie are alike, and alike paths of files lead to the same file.
    have halike : p.Alike q := Path.alike_of_compare_eq hcompare
    obtain ⟨k, -, hk, -⟩ := exists_of_mem_discover hp
    obtain ⟨m, -, hm, -⟩ := exists_of_mem_discover hq
    exact absurd (hk.trans (locate_of_alike halike hk hm ▸ hm.symm)) hne

/-- Discovery lists exactly the candidates, in the strict order of their paths.  If the starting
path leads to a file, only that can be one, wherever it stands. -/
theorem discover_exact (hl : t.locate root = .ok l) :
    (∀ p, p ∈ t.discover root extensions excluded
        ↔ ∃ ns, t.Candidate l extensions excluded ns ∧ p = ns.foldl Path.child root)
      ∧ (∀ ns, t.Candidate l extensions excluded ns →
          t.locate (ns.foldl Path.child root) = .ok (l ++ ns))
      ∧ (t.discover root extensions excluded).Pairwise
          (fun p q => p.compare q = .lt ∧ t.locate p ≠ t.locate q)
      ∧ ∀ bytes, t.get? l = some (.file bytes) →
          ∀ p, p ∈ t.discover root extensions excluded
            ↔ p = root ∧ ∃ n, l.getLast? = some n ∧ Path.Bears n extensions :=
  ⟨fun _ => mem_discover_iff hl, fun _ h => h.locate hl,
    pairwise_compare_discover t root extensions excluded,
    fun _ hfile _ => mem_discover_iff_of_file hl hfile⟩

/-- A directory `dist` with a file and a directory that are both named `lib.ts`. -/
def sampleTree : Tree where
  entries := [(["dist"], .directory), (["dist", "a.TS"], .file .empty),
    (["dist", "lib.ts"], .file .empty), (["dist", "src"], .directory),
    (["dist", "src", "b.tsx"], .file .empty), (["dist", "src", "lib.ts"], .directory),
    (["dist", "src", "lib.ts", "c.ts"], .file .empty)]
  here := []
  ascending := by
    unfold Ascending
    decide
  rooted := by
    simp only [List.forall_mem_cons]
    exact ⟨⟨[], "dist", rfl, by decide, .inl rfl⟩,
      ⟨["dist"], "a.TS", rfl, by decide, .inr (by simp)⟩,
      ⟨["dist"], "lib.ts", rfl, by decide, .inr (by simp)⟩,
      ⟨["dist"], "src", rfl, by decide, .inr (by simp)⟩,
      ⟨["dist", "src"], "b.tsx", rfl, by decide, .inr (by simp)⟩,
      ⟨["dist", "src"], "lib.ts", rfl, by decide, .inr (by simp)⟩,
      ⟨["dist", "src", "lib.ts"], "c.ts", rfl, by decide, .inr (by simp)⟩, by simp⟩

/-- Excluding `dist` and `lib.ts` hides what is in the directory `lib.ts`, and neither the file of
that name nor the directory that the search starts from. -/
theorem discover_sample :
    sampleTree.locate ⟨"dist"⟩ = .ok ["dist"]
      ∧ ⟨"dist/lib.ts"⟩ ∈ sampleTree.discover ⟨"dist"⟩ [".ts", "TSX"] ["dist", "lib.ts"]
      ∧ ⟨"dist/src/b.tsx"⟩ ∈ sampleTree.discover ⟨"dist"⟩ [".ts", "TSX"] ["dist", "lib.ts"]
      ∧ ⟨"dist/src/lib.ts/c.ts"⟩
          ∉ sampleTree.discover ⟨"dist"⟩ [".ts", "TSX"] ["dist", "lib.ts"]
      ∧ ∀ p, p ∈ sampleTree.discover ⟨"./dist/lib.ts"⟩ ["ts"] ["dist", "lib.ts"]
          ↔ p = ⟨"./dist/lib.ts"⟩ := by
  have hroot : sampleTree.locate ⟨"dist"⟩ = .ok ["dist"] := by decide +kernel
  have hts : Path.Bears "lib.ts" [".ts", "TSX"] :=
    ⟨(RawText.ofString "lib").bytes, (RawText.ofString "ts").bytes, by decide, by decide, by decide,
      ".ts", by simp, by decide +kernel⟩
  have htsx : Path.Bears "b.tsx" [".ts", "TSX"] :=
    ⟨(RawText.ofString "b").bytes, (RawText.ofString "tsx").bytes, by decide, by decide, by decide,
      "TSX", by simp, by decide +kernel⟩
  refine ⟨hroot, ?_, ?_, fun hmem => ?_, fun p => ?_⟩
  · refine ((discover_exact hroot).1 _).2 ⟨["lib.ts"], ⟨⟨.empty, rfl⟩, ⟨_, rfl, hts⟩, ?_⟩,
      by decide +kernel⟩
    simp
  · refine ((discover_exact hroot).1 _).2 ⟨["src", "b.tsx"], ⟨⟨.empty, rfl⟩, ⟨_, rfl, htsx⟩, ?_⟩,
      by decide +kernel⟩
    simp
  · obtain ⟨ns, hns, hpath⟩ := ((discover_exact hroot).1 _).1 hmem
    have hleads := (discover_exact hroot).2.1 ns hns
    have hleads' : sampleTree.locate ⟨"dist/src/lib.ts/c.ts"⟩
        = .ok ["dist", "src", "lib.ts", "c.ts"] := by decide +kernel
    rw [← hpath, hleads'] at hleads
    obtain rfl : (["src", "lib.ts", "c.ts"] : Location) = ns := by simpa using hleads
    exact hns.entered "lib.ts" (by decide) (by simp)
  · have hfile : sampleTree.locate ⟨"./dist/lib.ts"⟩ = .ok ["dist", "lib.ts"] := by decide +kernel
    rw [(discover_exact hfile).2.2.2 .empty rfl, and_iff_left]
    exact ⟨"lib.ts", rfl, (RawText.ofString "lib").bytes, (RawText.ofString "ts").bytes, by decide,
      by decide, by decide, "ts", by simp, by decide +kernel⟩

/-! ## Paths of different files -/

/-- Some paths lead to files, and no two of them to the same. -/
structure DistinctFiles (t : Tree) (ps : List Path) : Prop where
  /-- Every path leads to a file. -/
  file : ∀ p ∈ ps, ∃ l bytes, t.locate p = .ok l ∧ t.get? l = some (.file bytes)
  /-- No two lead to the same file. -/
  distinct : ps.Pairwise fun p q => t.locate p ≠ t.locate q

theorem distinctFiles_discover (t : Tree) (root : Path) (extensions excluded : List String) :
    t.DistinctFiles (t.discover root extensions excluded) :=
  ⟨fun _ h => exists_of_mem_discover h, pairwise_discover t root extensions excluded⟩

theorem distinctFiles_nil (t : Tree) : t.DistinctFiles [] where
  file := by simp
  distinct := .nil

namespace DistinctFiles

variable {t' : Tree} {ps : List Path}

theorem tail (h : t.DistinctFiles (p :: ps)) : t.DistinctFiles ps :=
  ⟨fun q hq => h.file q (List.mem_cons_of_mem p hq), (List.pairwise_cons.1 h.distinct).2⟩

/-- Paths of files keep their meaning in a tree that keeps the tree. -/
theorem locate_eq (h : t.DistinctFiles ps) (hkeeps : t.Keeps t') (hp : p ∈ ps) :
    t'.locate p = t.locate p := by
  obtain ⟨l, _, hl, -⟩ := h.file p hp
  rw [hl, hkeeps.locate hl]

theorem keeps (h : t.DistinctFiles ps) (hkeeps : t.Keeps t') : t'.DistinctFiles ps where
  file p hp :=
    let ⟨l, bytes, hl, hfile⟩ := h.file p hp
    let ⟨bytes', hfile'⟩ := hkeeps.file l bytes hfile
    ⟨l, bytes', hkeeps.locate hl, hfile'⟩
  distinct := h.distinct.imp_of_mem fun {p q} hp hq hne => by
    rwa [h.locate_eq hkeeps hp, h.locate_eq hkeeps hq]

theorem perm (h : t.DistinctFiles ps) {qs : List Path} (hperm : ps.Perm qs) :
    t.DistinctFiles qs where
  file p hp := h.file p (hperm.mem_iff.2 hp)
  distinct := hperm.pairwise h.distinct fun hne => hne.symm

theorem nodup (h : t.DistinctFiles ps) : ps.Nodup :=
  h.distinct.imp fun hne heq => hne (congrArg t.locate heq)

/-- Paths of the same file are the same path. -/
theorem eq_of_locate_eq (h : t.DistinctFiles ps) {q : Path} (hp : p ∈ ps) (hq : q ∈ ps)
    (heq : t.locate p = t.locate q) : p = q := by
  have : Std.Symm fun p q : Path => t.locate p ≠ t.locate q := ⟨fun _ _ h => h.symm⟩
  exact Classical.byContradiction fun hne => h.distinct.forall hp hq hne heq

/-- The other files do not stand where the first one does. -/
theorem ne_head (h : t.DistinctFiles (p :: ps)) {q : Path} (hq : q ∈ ps)
    (hp : t.locate p = .ok l) (hl : t.locate q = .ok m) : m ≠ l := by
  rintro rfl
  exact (List.pairwise_cons.1 h.distinct).1 q hq (hp.trans hl.symm)

end DistinctFiles

end SourceMend.Tree
