import Mathlib.Data.String.Basic
import SourceMend.Diagnostic.Index
import SourceMend.Proofs.Sorting
import SourceMend.Proofs.Tree.Canonical

/-!
# The codes of a file

An index holds, for every file, the codes of the diagnostics that name it
(`codesFor_named`).  A diagnostic names a file when its path leads there, however it is
spelled.  A path that leads nowhere is compared by its components with the absolute path
of the file.  Only a path with a separator at its end, or a dot after one, leads nowhere
and is alike to that (`Names.trails_of_error`).
-/

namespace SourceMend.Diagnostic

variable {t : Tree} {root p q : Path} {l m : Location} {d d' : Diagnostic} {ds ds' : List Diagnostic}
  {codes codes' : List String}

/-! ## Diagnostics that name a file -/

/-- That a diagnostic whose path is read from `root` is about what stands at a location. -/
inductive Names (t : Tree) (root : Path) (d : Diagnostic) (l : Location) : Prop where
  /-- Its path leads there. -/
  | leads : t.locate (root.join ⟨d.file⟩) = .ok l → Names t root d l
  /-- Its path leads nowhere and is alike to the absolute path of the location. -/
  | trails {f : Fault} : t.locate (root.join ⟨d.file⟩) = .error f →
      (root.join ⟨d.file⟩).Alike (Tree.pathOf l) → Names t root d l

theorem names_iff_of_locate (h : t.locate (root.join ⟨d.file⟩) = .ok m) :
    Names t root d l ↔ m = l := by
  constructor
  · rintro (hleads | ⟨herror, -⟩)
    · exact Except.ok.inj (h.symm.trans hleads)
    · cases h.symm.trans herror
  · rintro rfl
    exact .leads h

/-- What the index compares is whether a diagnostic names the file. -/
theorem components_settled_iff (hp : t.locate p = .ok l) :
    (t.settled (root.join ⟨d.file⟩)).components = (t.settled p).components
      ↔ Names t root d l := by
  have hsettled : t.settled p = Tree.pathOf l := by simp [Tree.settled, Tree.canonical?, hp]
  rw [hsettled]
  cases h : t.locate (root.join ⟨d.file⟩) with
  | ok m =>
    have hm : t.settled (root.join ⟨d.file⟩) = Tree.pathOf m := by
      simp [Tree.settled, Tree.canonical?, h]
    rw [hm, names_iff_of_locate h]
    constructor
    · exact Tree.eq_of_alike_pathOf (Tree.isSome_of_locate h) (Tree.isSome_of_locate hp)
    · rintro rfl
      rfl
  | error f =>
    have hkept : t.settled (root.join ⟨d.file⟩) = root.join ⟨d.file⟩ := by
      simp [Tree.settled, Tree.canonical?, h]
    rw [hkept]
    constructor
    · exact .trails h
    · rintro (hleads | ⟨-, halike⟩)
      · cases h.symm.trans hleads
      · exact halike

/-- A path that leads nowhere names nothing unless it ends with a separator or a dot after one. -/
theorem Names.trails_of_error {f : Fault} (hl : (t.get? l).isSome) (h : Names t root d l)
    (hf : t.locate (root.join ⟨d.file⟩) = .error f) : Tree.Trails (root.join ⟨d.file⟩) := by
  rcases h with hleads | ⟨-, halike⟩
  · cases hf.symm.trans hleads
  · obtain ⟨e, he⟩ := Option.isSome_iff_exists.1 hl
    refine Classical.byContradiction fun htrails => ?_
    cases hf.symm.trans (Tree.locate_of_alike_pathOf he halike htrails)

/-- That two diagnostics have one code and their files are the same or spellings of the same. -/
structure Respelled (t : Tree) (root : Path) (d d' : Diagnostic) : Prop where
  code : d.code = d'.code
  file : d.file = d'.file
    ∨ ∃ m, t.locate (root.join ⟨d.file⟩) = .ok m ∧ t.locate (root.join ⟨d'.file⟩) = .ok m

theorem Respelled.names_iff (h : Respelled t root d d') : Names t root d l ↔ Names t root d' l := by
  rcases h.file with hfile | ⟨m, hm, hm'⟩
  · have transfer {a b : Diagnostic} (hab : a.file = b.file) :
        Names t root a l → Names t root b l := by
      rintro (hleads | ⟨herror, halike⟩)
      · exact .leads (hab ▸ hleads)
      · exact .trails (hab ▸ herror) (hab ▸ halike)
    exact ⟨transfer hfile, transfer hfile.symm⟩
  · rw [names_iff_of_locate hm, names_iff_of_locate hm']

/-- Spelling some diagnostics in another way does not change which codes name a file. -/
theorem exists_names_of_respelled (h : List.Forall₂ (Respelled t root) ds ds') {code : String} :
    (∃ d ∈ ds, Names t root d l ∧ d.code = code) ↔ ∃ d ∈ ds', Names t root d l ∧ d.code = code := by
  induction h with
  | nil => rfl
  | cons hd _ ih => simp only [List.exists_mem_cons_iff, ih, hd.names_iff, hd.code]

/-! ## The codes that are found -/

namespace Index

theorem mem_codesFor {i : Index} {code : String} : code ∈ (i.codesFor t p).getD []
    ↔ ∃ e ∈ i.entries, e.1.components = (t.settled p).components ∧ e.2 = code := by
  have hfound : code ∈ (i.codesFor t p).getD []
      ↔ code ∈ (i.entries.filter fun e => e.1.components = (t.settled p).components).map (·.2) := by
    simp only [codesFor]
    split
    · next hnil => simp [List.isEmpty_iff.1 hnil]
    · rw [Option.getD_some, List.mem_eraseDups, List.mem_mergeSort]
  rw [hfound]
  simp [and_assoc]

/-- The codes that are found, sorted in a way that can be evaluated. -/
theorem codesFor_eq_insertionSort (i : Index) : i.codesFor t p
    = let codes := (i.entries.filter fun e => e.1.components = (t.settled p).components).map (·.2)
      if codes.isEmpty then none else some (codes.insertionSort (· ≤ ·)).eraseDups := by
  simp only [codesFor, List.mergeSort_eq_insertionSort (fun a b : String => a ≤ b)]

/-- Codes that are found are ascending, each once, and there is one. -/
theorem ascending_codesFor {i : Index} (h : i.codesFor t p = some codes) :
    codes.Pairwise (· < ·) ∧ codes ≠ [] := by
  simp only [codesFor] at h
  split at h
  · cases h
  · next hne =>
    cases h
    constructor
    · refine (pairwise_eraseDups (Ranking.string.pairwise_mergeSort _)).imp fun {a b} hab => ?_
      obtain ⟨hle, hne⟩ := hab
      exact Classical.byContradiction fun hlt =>
        hne (String.le_antisymm (of_decide_eq_true hle) (String.not_lt.1 hlt))
    · rw [List.isEmpty_iff] at hne
      obtain ⟨code, hcode⟩ := List.exists_mem_of_ne_nil _ hne
      refine List.ne_nil_of_mem (a := code) ?_
      rw [List.mem_eraseDups, List.mem_mergeSort]
      exact hcode

/-- Two answers that hold the same codes are the same. -/
theorem eq_of_mem_iff {o o' : Option (List String)}
    (h : ∀ codes, o = some codes → codes.Pairwise (· < ·) ∧ codes ≠ [])
    (h' : ∀ codes, o' = some codes → codes.Pairwise (· < ·) ∧ codes ≠ [])
    (hmem : ∀ code, code ∈ o.getD [] ↔ code ∈ o'.getD []) : o = o' := by
  cases o with
  | none =>
    cases o' with
    | none => rfl
    | some codes' =>
      obtain ⟨code, hcode⟩ := List.exists_mem_of_ne_nil codes' (h' codes' rfl).2
      cases (hmem code).2 hcode
  | some codes =>
    cases o' with
    | none =>
      obtain ⟨code, hcode⟩ := List.exists_mem_of_ne_nil codes (h codes rfl).2
      cases (hmem code).1 hcode
    | some codes' =>
      exact congrArg some ((h codes rfl).1.eq_of_mem_iff (h' codes' rfl).1 fun {code} => hmem code)

/-- The codes that are found are those of the diagnostics that name the file. -/
theorem mem_codesFor_build (hp : t.locate p = .ok l) {code : String} :
    code ∈ ((build t root ds).codesFor t p).getD [] ↔ ∃ d ∈ ds, Names t root d l ∧ d.code = code := by
  rw [mem_codesFor]
  simp only [build, List.mem_map, ↓existsAndEq, and_true, components_settled_iff hp]

/-- Nothing is found only if no diagnostic names the file. -/
theorem codesFor_build_eq_none_iff (hp : t.locate p = .ok l) :
    (build t root ds).codesFor t p = none ↔ ∀ d ∈ ds, ¬Names t root d l := by
  cases h : (build t root ds).codesFor t p with
  | none =>
    refine iff_of_true rfl fun d hd hnames => ?_
    have hmem : d.code ∈ ((build t root ds).codesFor t p).getD [] :=
      (mem_codesFor_build hp).2 ⟨d, hd, hnames, rfl⟩
    rw [h] at hmem
    cases hmem
  | some codes =>
    refine iff_of_false nofun fun hnone => ?_
    obtain ⟨code, hcode⟩ := List.exists_mem_of_ne_nil codes (ascending_codesFor h).2
    have hmem : code ∈ ((build t root ds).codesFor t p).getD [] := by rwa [h]
    obtain ⟨d, hd, hnames, -⟩ := (mem_codesFor_build hp).1 hmem
    exact hnone d hd hnames

/-- An index finds for a file exactly the codes of the diagnostics that name it, whatever the
spellings.  A diagnostic whose path leads nowhere names no file, unless its path has a separator
at the end or a dot after one. -/
theorem codesFor_named (hp : t.locate p = .ok l) :
    ((build t root ds).codesFor t p = none ↔ ∀ d ∈ ds, ¬Names t root d l)
      ∧ (∀ codes, (build t root ds).codesFor t p = some codes →
          codes.Pairwise (· < ·)
            ∧ ∀ code, code ∈ codes ↔ ∃ d ∈ ds, Names t root d l ∧ d.code = code)
      ∧ (∀ q ds', t.locate q = .ok l → List.Forall₂ (Respelled t root) ds ds' →
          (build t root ds').codesFor t q = (build t root ds).codesFor t p)
      ∧ ∀ d, Names t root d l ↔ t.locate (root.join ⟨d.file⟩) = .ok l
          ∨ (∃ f, t.locate (root.join ⟨d.file⟩) = .error f) ∧ Tree.Trails (root.join ⟨d.file⟩)
            ∧ (root.join ⟨d.file⟩).Alike (Tree.pathOf l) := by
  refine ⟨codesFor_build_eq_none_iff hp, fun codes hcodes => ⟨(ascending_codesFor hcodes).1, ?_⟩,
    fun q ds' hq hds => ?_, fun d => ⟨fun hnames => ?_, ?_⟩⟩
  · intro code
    rw [← mem_codesFor_build hp, hcodes, Option.getD_some]
  · refine eq_of_mem_iff (fun _ => ascending_codesFor) (fun _ => ascending_codesFor) fun code => ?_
    rw [mem_codesFor_build hq, mem_codesFor_build hp, exists_names_of_respelled hds]
  · rcases hnames with hleads | ⟨herror, halike⟩
    · exact .inl hleads
    · exact .inr ⟨⟨_, herror⟩,
        Names.trails_of_error (Tree.isSome_of_locate hp) (.trails herror halike) herror, halike⟩
  · rintro (hleads | ⟨⟨f, herror⟩, -, halike⟩)
    · exact .leads hleads
    · exact .trails herror halike

/-- The file `/w/a.ts`, seen from its directory. -/
def sampleTree : Tree :=
  { (Tree.empty.put ["w"] .directory).put ["w", "a.ts"] (.file .empty) with here := ["w"] }

/-- Diagnostics with the file relative, absolute, through the parent directory, missing, and with
a separator at the end. -/
def sampleDiagnostics : List Diagnostic :=
  [⟨"a.ts", 1, 1, "E2", "m"⟩, ⟨"/w/a.ts", 1, 1, "E1", "m"⟩, ⟨"../w/./a.ts", 1, 1, "E2", "n"⟩,
    ⟨"b.ts", 1, 1, "E3", "m"⟩, ⟨"a.ts/", 1, 1, "E4", "m"⟩]

/-- Read from the absolute path of the directory, the last of them is alike to the path of the
file, and read from its own spelling in the working directory it is not. -/
theorem codesFor_sample :
    sampleTree.locate ⟨"./a.ts"⟩ = .ok ["w", "a.ts"]
      ∧ (build sampleTree ⟨"/w"⟩ sampleDiagnostics).codesFor sampleTree ⟨"./a.ts"⟩
          = some ["E1", "E2", "E4"]
      ∧ (build sampleTree ⟨"."⟩ sampleDiagnostics).codesFor sampleTree ⟨"./a.ts"⟩
          = some ["E1", "E2"]
      ∧ (build sampleTree ⟨"."⟩ sampleDiagnostics).codesFor sampleTree ⟨"/w/../w/a.ts"⟩
          = some ["E1", "E2"]
      ∧ ∃ d ∈ sampleDiagnostics, Names sampleTree ⟨"/w"⟩ d ["w", "a.ts"] ∧ d.code = "E4" := by
  have hp : sampleTree.locate ⟨"./a.ts"⟩ = .ok ["w", "a.ts"] := by decide +kernel
  have hfound : (build sampleTree ⟨"/w"⟩ sampleDiagnostics).codesFor sampleTree ⟨"./a.ts"⟩
      = some ["E1", "E2", "E4"] := by
    rw [codesFor_eq_insertionSort]
    decide +kernel
  have hrelative : (build sampleTree ⟨"."⟩ sampleDiagnostics).codesFor sampleTree ⟨"./a.ts"⟩
      = some ["E1", "E2"] := by
    rw [codesFor_eq_insertionSort]
    decide +kernel
  refine ⟨hp, hfound, hrelative, ?_, ?_⟩
  · have hq : sampleTree.locate ⟨"/w/../w/a.ts"⟩ = .ok ["w", "a.ts"] := by decide +kernel
    have hsame : List.Forall₂ (Respelled sampleTree ⟨"."⟩) sampleDiagnostics sampleDiagnostics :=
      List.forall₂_same.2 fun d _ => ⟨rfl, .inl rfl⟩
    exact ((codesFor_named hp).2.2.1 _ _ hq hsame).trans hrelative
  · exact (((codesFor_named hp).2.1 _ hfound).2 "E4").1 (by decide)

/-- A diagnostic whose path leads nowhere can name a file. -/
theorem codesFor_trailing :
    sampleTree.locate ⟨"/w"⟩ = .ok ["w"] ∧ sampleTree.locate ⟨"/w/a.ts"⟩ = .ok ["w", "a.ts"]
      ∧ sampleTree.locate ((⟨"/w"⟩ : Path).join ⟨"a.ts/"⟩) = .error .notDirectory
      ∧ (build sampleTree ⟨"/w"⟩ [⟨"a.ts/", 1, 1, "E4", "m"⟩]).codesFor sampleTree ⟨"/w/a.ts"⟩
          = some ["E4"] := by
  decide +kernel

end Index
end SourceMend.Diagnostic
