import SourceMend.Proofs.Tree.FileName
import SourceMend.Proofs.Tree.Walk

/-!
# Which files are candidates

The candidates of a run are the files below the starting directory that bear one of the
extensions and have no excluded directory on the way from there (`Candidate`).  They are
what is discovered (`mem_discover_iff`).
-/

namespace SourceMend

open RawText (slash dot)

/-- That a name ends with a dot and one of some extensions, dots at the start of these and the
case of ASCII letters ignored.  Something stands before the dot, and there is no other after it. -/
def Path.Bears (n : RawText) (extensions : List String) : Prop :=
  ∃ stem e : List UInt8, stem ≠ [] ∧ dot ∉ e ∧ n.bytes = stem ++ dot :: e
    ∧ ∃ w ∈ extensions,
      (w.toList.dropWhile (· == '.')).map Char.toLower = (RawText.mk e).lossy.toList.map Char.toLower

theorem Path.plainExtension_eq_iff {w s : String} :
    plainExtension w = s.map Char.toLower
      ↔ (w.toList.dropWhile (· == '.')).map Char.toLower = s.toList.map Char.toLower := by
  rw [plainExtension, ← String.toList_inj, String.toList_map, String.toList_map,
    String.toList_ofList]

theorem Path.extensionOf_eq_some_iff {n e : RawText} (hup : n.bytes ≠ [dot, dot]) :
    extensionOf n = some e
      ↔ ∃ stem, stem ≠ [] ∧ dot ∉ e.bytes ∧ n.bytes = stem ++ dot :: e.bytes := by
  rw [extensionOf, if_neg hup]
  constructor
  · intro h
    split at h
    · next c stem ext hcut =>
      obtain rfl := Option.some.inj h
      obtain ⟨hn, hdot⟩ := Text.cutLast_eq_some hcut
      exact ⟨c :: stem, by simp, hdot, hn⟩
    · cases h
  · rintro ⟨stem, hstem, hdot, hn⟩
    obtain ⟨c, stem, rfl⟩ := List.exists_cons_of_ne_nil hstem
    rw [hn, Text.cutLast_append hdot]

/-- The extensions are looked for in the name of a path. -/
theorem Path.hasExtension_iff {p : Path} {n : RawText} (hn : p.fileName? = some n)
    (hup : n.bytes ≠ [dot, dot]) {extensions : List String} :
    p.hasExtension extensions = true ↔ Bears n extensions := by
  have hfound : p.extension? = extensionOf n := by rw [extension?, hn, Option.bind_some]
  rw [hasExtension, hfound]
  constructor
  · intro h
    split at h
    · next e he =>
      obtain ⟨w, hw, heq⟩ := List.any_eq_true.1 h
      obtain ⟨stem, hstem, hdot, hname⟩ := (extensionOf_eq_some_iff hup).1 he
      exact ⟨stem, e.bytes, hstem, hdot, hname, w, hw, plainExtension_eq_iff.1 (beq_iff_eq.1 heq)⟩
    · cases h
  · rintro ⟨stem, e, hstem, hdot, hname, w, hw, heq⟩
    rw [(extensionOf_eq_some_iff (e := ⟨e⟩) hup).2 ⟨stem, hstem, hdot, hname⟩]
    exact List.any_eq_true.2 ⟨w, hw, beq_iff_eq.2 (plainExtension_eq_iff.2 heq)⟩

namespace Tree

variable {t : Tree} {p root : Path} {l : Location} {ns : List RawText} {bytes : ByteArray}
  {extensions excluded : List String}

/-- The path of a file has one of some extensions when the name of the file bears one. -/
theorem hasExtension_iff_of_locate (h : t.locate p = .ok l) (hfile : t.get? l = some (.file bytes)) :
    p.hasExtension extensions = true ↔ ∃ n, l.getLast? = some n ∧ Path.Bears n extensions := by
  obtain rfl | ⟨d, n, rfl⟩ := List.eq_nil_or_concat l
  · cases (get?_nil t).symm.trans hfile
  · rw [List.concat_eq_append] at h hfile ⊢
    have hname : p.fileName? = some n := by
      rw [fileName?_of_locate h hfile, List.getLast?_concat]
    have hup := (isName_iff.1 (get?_parent hfile).1).2.1
    rw [Path.hasExtension_iff hname hup, List.getLast?_concat]
    simp

/-- That the names `ns` lead from a location to a file that a run considers. -/
structure Candidate (t : Tree) (l : Location) (extensions excluded : List String)
    (ns : List RawText) : Prop where
  /-- A file stands there. -/
  file : ∃ bytes, t.get? (l ++ ns) = some (.file bytes)
  /-- Its name bears one of the extensions. -/
  bears : ∃ n, (l ++ ns).getLast? = some n ∧ Path.Bears n extensions
  /-- No directory on the way has an excluded name. -/
  entered : ∀ d ∈ ns.dropLast, d.lossy ∉ excluded

theorem mem_discover_iff_of_file (hl : t.locate root = .ok l)
    (hfile : t.get? l = some (.file bytes)) :
    p ∈ t.discover root extensions excluded
      ↔ p = root ∧ ∃ n, l.getLast? = some n ∧ Path.Bears n extensions := by
  rw [← hasExtension_iff_of_locate hl hfile]
  simp only [discover, hl, hfile]
  split
  · next h => simp [h]
  · next h => simp [h]

/-- What `discover` lists for a directory, before it is sorted. -/
theorem discover_perm (hl : t.locate root = .ok l) (hdir : t.get? l = some .directory) :
    (t.discover root extensions excluded).Perm
      (((t.filesBelow l excluded).map fun ns => ns.foldl Path.child root).filter
        fun p => p.hasExtension extensions) := by
  simp only [discover, hl, hdir]
  exact List.mergeSort_perm _ _

theorem mem_discover_iff_of_directory (hl : t.locate root = .ok l)
    (hdir : t.get? l = some .directory) :
    p ∈ t.discover root extensions excluded
      ↔ ∃ ns, t.Candidate l extensions excluded ns ∧ p = ns.foldl Path.child root := by
  rw [(discover_perm hl hdir).mem_iff, List.mem_filter, List.mem_map]
  constructor
  · rintro ⟨⟨ns, hns, rfl⟩, hextension⟩
    obtain ⟨-, ⟨bytes, hfile⟩, hentered⟩ := mem_filesBelow_iff.1 hns
    have hbears := (hasExtension_iff_of_locate (locate_foldl_child hl hdir hfile) hfile).1 hextension
    exact ⟨ns, ⟨⟨bytes, hfile⟩, hbears, hentered⟩, rfl⟩
  · rintro ⟨ns, ⟨⟨bytes, hfile⟩, hbears, hentered⟩, rfl⟩
    have hne : ns ≠ [] := by
      rintro rfl
      rw [List.append_nil, hdir] at hfile
      cases hfile
    exact ⟨⟨ns, mem_filesBelow_iff.2 ⟨hne, ⟨bytes, hfile⟩, hentered⟩, rfl⟩,
      (hasExtension_iff_of_locate (locate_foldl_child hl hdir hfile) hfile).2 hbears⟩

/-- Below a file there is nothing. -/
theorem eq_nil_of_get?_append (hfile : t.get? l = some (.file bytes))
    (hsome : (t.get? (l ++ ns)).isSome) : ns = [] := by
  cases ns with
  | nil => rfl
  | cons n r =>
    obtain ⟨e, he⟩ := Option.isSome_iff_exists.1 hsome
    have hdir : t.get? l = some .directory := by
      obtain ⟨-, x, hx, -⟩ := get?_append_cons he
      exact (get?_parent hx).2
    cases hfile.symm.trans hdir

/-- The path of a candidate leads to it. -/
theorem Candidate.locate (h : t.Candidate l extensions excluded ns) (hl : t.locate root = .ok l) :
    t.locate (ns.foldl Path.child root) = .ok (l ++ ns) := by
  obtain ⟨bytes, hfile⟩ := h.file
  cases ns with
  | nil => simpa using hl
  | cons n r =>
    obtain ⟨-, x, hx, -⟩ := get?_append_cons hfile
    exact locate_foldl_child hl (get?_parent hx).2 hfile

theorem mem_discover_iff (hl : t.locate root = .ok l) :
    p ∈ t.discover root extensions excluded
      ↔ ∃ ns, t.Candidate l extensions excluded ns ∧ p = ns.foldl Path.child root := by
  obtain ⟨e, hg⟩ := Option.isSome_iff_exists.1 (isSome_of_locate hl)
  cases e with
  | directory => exact mem_discover_iff_of_directory hl hg
  | file bytes =>
    rw [mem_discover_iff_of_file hl hg]
    constructor
    · rintro ⟨rfl, hbears⟩
      exact ⟨[], ⟨⟨bytes, by simpa using hg⟩, by simpa using hbears, by simp⟩, rfl⟩
    · rintro ⟨ns, ⟨⟨bytes', hfile⟩, hbears, -⟩, rfl⟩
      obtain rfl := eq_nil_of_get?_append hg (by rw [hfile]; rfl)
      exact ⟨rfl, by simpa using hbears⟩

/-- What is discovered are candidates. -/
theorem exists_candidate (h : p ∈ t.discover root extensions excluded) :
    ∃ l ns, t.locate root = .ok l ∧ t.Candidate l extensions excluded ns
      ∧ p = ns.foldl Path.child root := by
  cases hl : t.locate root with
  | error f => simp [discover, hl] at h
  | ok l =>
    obtain ⟨ns, hns, hp⟩ := (mem_discover_iff hl).1 h
    exact ⟨l, ns, rfl, hns, hp⟩

end Tree
end SourceMend
