import SourceMend.Proofs.Path.Shown
import SourceMend.Proofs.Tree.Alike

/-!
# Where a path below another leads

A path below a base leads along its names from where the base leads (`aim_of_below`), and
reading these names from the base leads there too (`locate_join_along`).  Whatever is read from
the base cannot lead there otherwise than by having the names among its pieces
(`mem_pieces_of_locate_join`).
-/

namespace SourceMend.Tree

open RawText (slash dot)

open SourceMend.Path (along)

variable {t : Tree} {p q base : Path} {l m : Location} {n : RawText} {ns : List RawText}
  {ps : List (List UInt8)}

/-! ## Along the names -/

theorem foldl_follow_names (ns : List RawText) (l : Location) :
    (ns.map Path.Component.name).foldl follow l = l ++ ns := by
  induction ns generalizing l with
  | nil => simp
  | cons n r ih => simp [follow, ih]

/-- The names lead on from where the base leads. -/
theorem aim_of_below (h : Path.Below base p ns) (t : Tree) : t.aim p = t.aim base ++ ns := by
  rw [aim_eq_foldl, aim_eq_foldl, h.components, List.foldl_append, foldl_follow_names]

/-- A path below a base leads to its names below where the base leads. -/
theorem locate_below (h : Path.Below base p ns) (hl : t.locate p = .ok l) :
    t.locate p = .ok (t.aim base ++ ns) := by
  rw [hl, ← aim_of_locate hl, aim_of_below h]

/-- The names read from the base lead where the path leads. -/
theorem locate_join_along (h : Path.Below base p ns) (hl : t.locate p = .ok l) :
    t.locate (base.join (along ns)) = .ok l :=
  locate_alike h.alike_join hl fun _ => Path.not_idle_of_join_along h.names h.ne_nil base

/-! ## Otherwise -/

/-- What is reached from a location is part of the way to it and pieces that were walked along. -/
theorem exists_of_foldl_step (ps : List (List UInt8)) (l : Location) :
    ∃ k ms, k <+: l ∧ ps.foldl step l = k ++ ms ∧ ∀ m ∈ ms, m.bytes ∈ ps := by
  induction ps using List.reverseRecOn with
  | nil => exact ⟨l, [], List.prefix_rfl, by simp, by simp⟩
  | append_singleton ps piece ih =>
    obtain ⟨k, ms, hk, heq, hms⟩ := ih
    have hkept : ∀ m ∈ ms, m.bytes ∈ ps ++ [piece] := fun m hm =>
      List.mem_append_left _ (hms m hm)
    rw [List.foldl_append, heq, List.foldl_cons, List.foldl_nil, step]
    by_cases hidle : Path.isIdle piece = true
    · exact ⟨k, ms, hk, if_pos hidle, hkept⟩
    rw [if_neg hidle]
    by_cases hup : piece = [dot, dot]
    · rw [if_pos hup]
      by_cases hnone : ms = []
      · subst hnone
        exact ⟨k.dropLast, [], (List.dropLast_prefix k).trans hk, by simp, by simp⟩
      · exact ⟨k, ms.dropLast, hk, List.dropLast_append_of_ne_nil hnone, fun m hm =>
          hkept m (List.dropLast_subset ms hm)⟩
    · rw [if_neg hup]
      refine ⟨k, ms ++ [RawText.mk piece], hk, List.append_assoc .., ?_⟩
      exact List.forall_mem_append.2 ⟨hkept, by simp⟩

/-- What is reached beyond the start of a walk are pieces of it. -/
theorem mem_of_foldl_step (h : ps.foldl step l = l ++ ns) (hn : n ∈ ns) : n.bytes ∈ ps := by
  obtain ⟨k, ms, ⟨r, rfl⟩, heq, hms⟩ := exists_of_foldl_step ps l
  have hrest : ms = r ++ ns := by
    rw [h, List.append_assoc] at heq
    exact (List.append_cancel_left heq).symm
  exact hms n (hrest ▸ List.mem_append_right r hn)

/-- Where a path leads that is read from another. -/
theorem aim_join (hq : q.isAbsolute = false) (t : Tree) :
    t.aim (base.join q) = (Text.pieces slash q.text.bytes).foldl step (t.aim base) := by
  have haim (p : Path) : t.aim p = (Text.pieces slash p.text.bytes).foldl step (t.origin p) := rfl
  by_cases hbase : base.text.bytes = []
  · have hrel : base.isAbsolute = false := by simp [Path.isAbsolute, hbase]
    have hstart : t.aim base = t.origin q := by
      simp [haim, hbase, Text.pieces, step, Path.isIdle, origin, hq, hrel]
    rw [Path.join_of_empty hbase, hstart, haim]
  · obtain ⟨ps, last, -, hidle, hpieces, hjoined⟩ := Path.pieces_join hbase hq
    have hlast (l : Location) : last.foldl step l = l := by
      have hnone : last.filter (!Path.isIdle ·) = [] :=
        List.filter_eq_nil_iff.2 fun piece hpiece => by simp [hidle piece hpiece]
      rw [foldl_step, hnone]
      rfl
    rw [haim, haim, hjoined, hpieces, List.foldl_append, List.foldl_append, hlast, origin, origin,
      Path.isAbsolute_join, hq, Bool.or_false]

/-- Where a path that is read from the base leads beyond it, its pieces lead there. -/
theorem mem_pieces_of_aim_join (h : t.aim (base.join q) = t.aim base ++ ns) (hn : n ∈ ns) :
    n.bytes ∈ Text.pieces slash q.text.bytes := by
  cases hq : q.isAbsolute with
  | false => exact mem_of_foldl_step ((aim_join hq t).symm.trans h) hn
  | true =>
    have hjoin : base.join q = q := by simp [Path.join, hq]
    have horigin : t.aim q = (Text.pieces slash q.text.bytes).foldl step [] := by
      simp [aim, origin, hq]
      rfl
    rw [hjoin, horigin] at h
    exact mem_of_foldl_step (l := []) h (List.mem_append_right _ hn)

/-- A path that is read from the base and leads to a file below it has the names that lead there
among its pieces. -/
theorem mem_pieces_of_locate_join (h : Path.Below base p ns) (hl : t.locate p = .ok l)
    (hq : t.locate (base.join q) = .ok l) (hn : n ∈ ns) :
    n.bytes ∈ Text.pieces slash q.text.bytes := by
  have haim : t.aim (base.join q) = t.aim base ++ ns := by
    rw [aim_of_locate hq, ← aim_of_locate hl, aim_of_below h]
  exact mem_pieces_of_aim_join haim hn

end SourceMend.Tree
