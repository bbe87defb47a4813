import Mathlib.Data.List.MinMax
import Mathlib.Data.List.Pairwise
import SourceMend.Discovery
import SourceMend.Proofs.Tree.Store

/-!
# The walk below a directory

The walk finds exactly the files below a directory that have no excluded directory on the
way (`mem_filesBelow_iff`), each once (`nodup_filesBelow`).  Both are inductions on how deep
it may go (`mem_filesWithin_iff`, `nodup_filesWithin`).  It may go as deep as the tree, so
it misses nothing (`length_le_depth`).
-/

namespace SourceMend.Tree

variable {t : Tree} {l : Location} {n : RawText} {ns : List RawText} {excluded : List String}
  {within : Location → List (List RawText)} {levels : Nat}

/-! ## The names in a directory -/

theorem mem_names_iff : n ∈ t.names l ↔ (t.get? (l ++ [n])).isSome := by
  rw [names, List.mem_filterMap, get?, if_neg (by simp), Option.isSome_iff_exists]
  simp only [Option.ite_none_right_eq_some, List.getLast?_eq_some_iff]
  constructor
  · rintro ⟨⟨m, e⟩, hmem, hl, d, hd⟩
    simp only at hl hd
    subst hd
    obtain rfl : d = l := by simpa using hl
    exact ⟨e, t.ascending.lookup_eq_some_iff.2 hmem⟩
  · rintro ⟨e, he⟩
    exact ⟨(l ++ [n], e), t.ascending.lookup_eq_some_iff.1 he, by simp, l, rfl⟩

/-- A directory holds every name once. -/
theorem nodup_names (t : Tree) (l : Location) : (t.names l).Nodup := by
  refine List.Pairwise.filterMap _ ?_ t.ascending
  intro x y hxy a hx b hy hab
  simp only [Option.ite_none_right_eq_some, List.getLast?_eq_some_iff] at hx hy
  obtain ⟨hxl, d, hd⟩ := hx
  obtain ⟨hyl, k, hk⟩ := hy
  rw [hd, List.dropLast_concat] at hxl
  rw [hk, List.dropLast_concat] at hyl
  rw [hd, hk, hxl, hyl, hab, before_irrefl] at hxy
  cases hxy

/-! ## One name -/

/-- A name leads to itself if it is the name of a file, and to what lies behind it if it is the
name of a directory that is not excluded. -/
theorem mem_filesUnder_iff : ns ∈ t.filesUnder excluded within l n
    ↔ (∃ bytes, t.get? (l ++ [n]) = some (.file bytes)) ∧ ns = [n]
      ∨ t.get? (l ++ [n]) = some .directory ∧ n.lossy ∉ excluded
        ∧ ∃ r ∈ within (l ++ [n]), ns = n :: r := by
  unfold filesUnder
  split
  · next bytes hfile => simp [hfile]
  · next hdir =>
    split
    · next hin => simp [hdir, List.contains_iff_mem.1 hin]
    · next hout =>
      have hout : n.lossy ∉ excluded := fun hin => hout (List.contains_iff_mem.2 hin)
      simp [hdir, hout, eq_comm]
  · next hnone => simp [hnone]

/-- What a name leads to starts with it. -/
theorem head?_of_mem_filesUnder (h : ns ∈ t.filesUnder excluded within l n) :
    ns.head? = some n := by
  rcases mem_filesUnder_iff.1 h with ⟨-, rfl⟩ | ⟨-, -, r, -, rfl⟩ <;> rfl

theorem nodup_filesUnder (h : ∀ m, (within m).Nodup) (n : RawText) :
    (t.filesUnder excluded within l n).Nodup := by
  unfold filesUnder
  split
  · exact List.nodup_singleton _
  · split
    · exact List.nodup_nil
    · exact (h _).map List.cons_injective
  · exact List.nodup_nil

/-! ## The walk -/

/-- The walk finds the files within its reach that have no excluded directory on the way. -/
theorem mem_filesWithin_iff : ns ∈ t.filesWithin excluded levels l
    ↔ ns ≠ [] ∧ ns.length ≤ levels ∧ (∃ bytes, t.get? (l ++ ns) = some (.file bytes))
      ∧ ∀ d ∈ ns.dropLast, d.lossy ∉ excluded := by
  induction levels generalizing l ns with
  | zero => cases ns <;> simp [filesWithin]
  | succ levels ih =>
    simp only [filesWithin, List.mem_flatMap, mem_filesUnder_iff]
    constructor
    case mp =>
      rintro ⟨n, -, ⟨⟨bytes, hfile⟩, rfl⟩ | ⟨hdir, hout, r, hr, rfl⟩⟩
      · exact ⟨by simp, by simp, ⟨bytes, hfile⟩, by simp⟩
      · obtain ⟨hne, hlen, ⟨bytes, hfile⟩, hdirs⟩ := ih.1 hr
        refine ⟨by simp, Nat.succ_le_succ hlen, ⟨bytes, by rwa [List.append_cons]⟩, ?_⟩
        rw [List.dropLast_cons_of_ne_nil hne, List.forall_mem_cons]
        exact ⟨hout, hdirs⟩
    case mpr =>
      rintro ⟨hne, hlen, ⟨bytes, hfile⟩, hdirs⟩
      obtain ⟨n, r, rfl⟩ := List.exists_cons_of_ne_nil hne
      obtain ⟨-, e, he, hdir⟩ := get?_append_cons hfile
      refine ⟨n, mem_names_iff.2 (by simp [he]), ?_⟩
      by_cases hr : r = []
      · subst hr
        exact .inl ⟨⟨bytes, hfile⟩, rfl⟩
      · obtain rfl := hdir hr
        rw [List.dropLast_cons_of_ne_nil hr, List.forall_mem_cons] at hdirs
        exact .inr ⟨he, hdirs.1, r, ih.2 ⟨hr, Nat.le_of_succ_le_succ hlen,
          ⟨bytes, by rwa [← List.append_cons]⟩, hdirs.2⟩, rfl⟩

/-- The walk finds nothing twice. -/
theorem nodup_filesWithin (t : Tree) (excluded : List String) (levels : Nat) (l : Location) :
    (t.filesWithin excluded levels l).Nodup := by
  induction levels generalizing l with
  | zero => exact List.nodup_nil
  | succ levels ih =>
    rw [filesWithin, List.nodup_flatMap]
    refine ⟨fun n _ => nodup_filesUnder ih n, (nodup_names t l).imp fun {a b} hab ns ha hb => hab ?_⟩
    exact Option.some.inj ((head?_of_mem_filesUnder ha).symm.trans (head?_of_mem_filesUnder hb))

theorem length_le_depth {e : Entry} (h : t.get? l = some e) : l.length ≤ t.depth := by
  by_cases hl : l = []
  · simp [hl]
  · have hmem : l.length ∈ t.entries.map (·.1.length) :=
      List.mem_map_of_mem (f := fun x : Location × Entry => x.1.length) (mem_entries_of_get? h hl)
    exact List.le_max_of_le' 0 hmem le_rfl

/-- What is listed below a directory are the files there, if no excluded directory is on the way. -/
theorem mem_filesBelow_iff : ns ∈ t.filesBelow l excluded
    ↔ ns ≠ [] ∧ (∃ bytes, t.get? (l ++ ns) = some (.file bytes))
      ∧ ∀ d ∈ ns.dropLast, d.lossy ∉ excluded := by
  rw [filesBelow, mem_filesWithin_iff]
  refine ⟨fun ⟨hne, _, hrest⟩ => ⟨hne, hrest⟩, fun ⟨hne, hfile, hdirs⟩ => ⟨hne, ?_, hfile, hdirs⟩⟩
  obtain ⟨bytes, hfile⟩ := hfile
  have hlen := length_le_depth hfile
  rw [List.length_append] at hlen
  omega

/-- Nothing is listed twice. -/
theorem nodup_filesBelow (t : Tree) (l : Location) (excluded : List String) :
    (t.filesBelow l excluded).Nodup :=
  nodup_filesWithin t excluded t.depth l

end SourceMend.Tree
