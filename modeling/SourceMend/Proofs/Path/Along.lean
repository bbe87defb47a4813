import SourceMend.Proofs.Path.Components
import SourceMend.Proofs.Text.Join
import SourceMend.Proofs.Tree.Resolve

/-!
# Paths along names

Names with slashes between them make a path whose components are these names
(`components_along`), since no name of a file is empty, is a `.` or has a slash.  Read from another
path, they add to its components (`components_join_along`), and no idle piece stands after them
(`not_idle_of_join_along`).
-/

namespace SourceMend.Path

open RawText (slash dot)

variable {p q : Path} {ns : List RawText} {n : RawText}

/-! ## The path and its pieces -/

/-- The path along some names. -/
def along (ns : List RawText) : Path := ⟨⟨Text.join [slash] (ns.map RawText.bytes)⟩⟩

/-- A path is what its pieces make up. -/
theorem eq_of_pieces (h : Text.pieces slash p.text.bytes = Text.pieces slash q.text.bytes) :
    p = q := by
  have htext := congrArg (Text.join [slash]) h
  rw [Text.join_pieces, Text.join_pieces] at htext
  exact Path.ext (RawText.ext htext)

section Names

variable (hns : ∀ n ∈ ns, Tree.isName n = true)

include hns

theorem pieces_along (hne : ns ≠ []) :
    Text.pieces slash (along ns).text.bytes = ns.map RawText.bytes := by
  rw [along, Text.pieces_join (by simpa using hne)]
  exact List.forall_mem_map.2 fun n hn => (Tree.isName_iff.1 (hns n hn)).2.2.1

theorem lead_along (hne : ns ≠ []) : lead (Text.pieces slash (along ns).text.bytes) = [] := by
  rw [pieces_along hns hne]
  obtain ⟨n, r, rfl⟩ := List.exists_cons_of_ne_nil hne
  exact lead_of_not_idle (Tree.isName_iff.1 (hns n List.mem_cons_self)).1 _

theorem along_ne_empty (hne : ns ≠ []) : (along ns).text.bytes ≠ [] := by
  intro h
  have hlead := lead_along hns hne
  simp [h, Text.pieces, lead] at hlead

theorem components_along (hne : ns ≠ []) : (along ns).components = ns.map .name := by
  have hidle : (ns.map RawText.bytes).filter (!isIdle ·) = ns.map RawText.bytes :=
    List.filter_eq_self.2 <| List.forall_mem_map.2 fun n hn => by
      simp [(Tree.isName_iff.1 (hns n hn)).1]
  have hpiece : ∀ n ∈ ns, (ofPiece ∘ RawText.bytes) n = .name n := fun n hn => by
    simp [ofPiece, (Tree.isName_iff.1 (hns n hn)).2.1]
  rw [components_eq (along_ne_empty hns hne), lead_along hns hne, pieces_along hns hne, hidle,
    List.map_map, List.map_congr_left hpiece, List.nil_append]

theorem isAbsolute_along (hne : ns ≠ []) : (along ns).isAbsolute = false := by
  refine Bool.eq_false_iff.2 fun habs => ?_
  obtain ⟨n, r, rfl⟩ := List.exists_cons_of_ne_nil hne
  have hroot := components_of_isAbsolute habs
  rw [components_along hns hne] at hroot
  cases (List.cons.inj hroot).1

/-! ## Names read from a path -/

/-- Names that are read from a path add to its components. -/
theorem components_join_along (hne : ns ≠ []) (base : Path) :
    (base.join (along ns)).components = base.components ++ ns.map .name := by
  rw [components_join (lead_along hns hne), components_along hns hne]

/-- Children of children do so too, one name after another. -/
theorem components_foldl_child (p : Path) :
    (ns.foldl child p).components = p.components ++ ns.map .name := by
  induction ns generalizing p with
  | nil => simp
  | cons n r ih =>
    obtain ⟨hn, hr⟩ := List.forall_mem_cons.1 hns
    have hchild : (p.child n).components = p.components ++ [.name n] :=
      components_join_along (List.forall_mem_singleton.2 hn) (List.cons_ne_nil n []) p
    rw [List.foldl_cons, ih hr, hchild, List.append_assoc, List.map_cons, List.singleton_append]

/-- A path ends with the names that are read from it. -/
theorem exists_pieces_join_along (hne : ns ≠ []) (base : Path) :
    ∃ ps, Text.pieces slash (base.join (along ns)).text.bytes = ps ++ ns.map RawText.bytes := by
  rw [← pieces_along hns hne]
  by_cases hbase : base.text.bytes = []
  · exact ⟨[], by rw [join_of_empty hbase, List.nil_append]⟩
  · obtain ⟨ps, -, -, -, -, hjoined⟩ := pieces_join hbase (isAbsolute_along hns hne)
    exact ⟨ps, hjoined⟩

/-- No idle piece stands after them. -/
theorem not_idle_of_join_along (hne : ns ≠ []) (base : Path) {last : List UInt8}
    (hlast : (Text.pieces slash (base.join (along ns)).text.bytes).getLast? = some last) :
    isIdle last = false := by
  obtain ⟨ps, hpieces⟩ := exists_pieces_join_along hns hne base
  rw [hpieces, List.getLast?_append_of_ne_nil _ (by simpa using hne)] at hlast
  obtain ⟨n, hn, rfl⟩ := List.mem_map.1 (List.mem_of_getLast? hlast)
  exact (Tree.isName_iff.1 (hns n hn)).1

/-- One more name leads to a child. -/
theorem child_along (hn : Tree.isName n = true) : (along ns).child n = along (ns ++ [n]) := by
  have hone : ∀ m ∈ [n], Tree.isName m = true := List.forall_mem_singleton.2 hn
  have hnext : ∀ m ∈ ns ++ [n], Tree.isName m = true := List.forall_mem_append.2 ⟨hns, hone⟩
  by_cases hne : ns = []
  · subst hne
    exact join_of_empty rfl ⟨n⟩
  have habs : isAbsolute ⟨n⟩ = false := isAbsolute_along hone (List.cons_ne_nil n [])
  obtain ⟨ps, last, -, hidle, hpieces, hjoined⟩ := pieces_join (along_ne_empty hns hne) habs
  have hlast : last = [] := by
    refine List.eq_nil_iff_forall_not_mem.2 fun piece hpiece => ?_
    have hmem : piece ∈ ns.map RawText.bytes := by
      rw [← pieces_along hns hne, hpieces]
      exact List.mem_append_right ps hpiece
    obtain ⟨m, hm, rfl⟩ := List.mem_map.1 hmem
    exact Bool.false_ne_true ((Tree.isName_iff.1 (hns m hm)).1.symm.trans (hidle _ hpiece))
  rw [hlast, List.append_nil, pieces_along hns hne] at hpieces
  refine eq_of_pieces (hjoined.trans ?_)
  rw [← hpieces, pieces_along hnext (by simp), List.map_append, List.map_singleton]
  exact congrArg (ns.map RawText.bytes ++ ·) (pieces_along hone (List.cons_ne_nil n []))

end Names

end SourceMend.Path
