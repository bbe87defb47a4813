import Mathlib.Tactic.SplitIfs
import SourceMend.Path
import SourceMend.Proofs.Text.Pieces

/-!
# The components of a path

The components of a path are those of its pieces, after the root or the `.` that its first piece
may stand for (`components_eq`).  So a path is absolute exactly if its components start with the
root (`isAbsolute_of_components`, `components_of_isAbsolute`), alike paths differ in idle pieces
only (`filter_pieces_of_alike`), and a path that is read from another adds its components to those
of the other, unless it starts with a root or a `.` itself (`components_join`).
-/

namespace SourceMend.Path

open RawText (slash dot)

variable {p q : Path} {cs : List Component} {ps qs rs : List (List UInt8)} {piece r s : List UInt8}

/-! ## Pieces and components -/

/-- What the first of some pieces stands for, besides a name or a `..`. -/
def lead : List (List UInt8) → List Component
  | [] => []
  | piece :: _ => if piece = [] then [.root] else if piece = [dot] then [.here] else []

theorem isIdle_eq_false_iff : isIdle piece = false ↔ piece ≠ [] ∧ piece ≠ [dot] := by
  simp [isIdle]

theorem lead_of_not_idle (h : isIdle piece = false) (ps : List (List UInt8)) :
    lead (piece :: ps) = [] := by
  obtain ⟨hnil, hdot⟩ := isIdle_eq_false_iff.1 h
  rw [lead, if_neg hnil, if_neg hdot]

/-- What the first piece stands for does not depend on the pieces after it. -/
theorem lead_append (hps : ps ≠ []) (qs : List (List UInt8)) : lead (ps ++ qs) = lead ps := by
  obtain ⟨piece, ps, rfl⟩ := List.exists_cons_of_ne_nil hps
  rfl

/-- The ways in which a path can start, and the split that comes of each. -/
inductive Start (s : List UInt8) : List UInt8 × List (List UInt8) → Prop where
  /-- At the root directory. -/
  | root (r : List UInt8) : s = slash :: r → Start s ([slash], Text.pieces slash r)
  /-- With a `.` alone. -/
  | here : s = [dot] → Start s ([dot], [])
  /-- With a `.` before a separator. -/
  | below (r : List UInt8) : s = dot :: slash :: r → Start s ([dot], [] :: Text.pieces slash r)
  /-- With a name or a `..`, or not at all. -/
  | bare : (s ≠ [] → lead (Text.pieces slash s) = []) → Start s ([], Text.pieces slash s)

/-- A text that starts with neither a separator nor a `.` component leads nowhere by itself. -/
theorem lead_pieces {b : UInt8} (hroot : b ≠ slash) (hdot : ¬(b = dot ∧ r = []))
    (hbelow : ¬(b = dot ∧ r.head? = some slash)) : lead (Text.pieces slash (b :: r)) = [] := by
  cases r with
  | nil => simp_all [Text.pieces, lead]
  | cons c r =>
    obtain ⟨piece, ps, hps⟩ := List.exists_cons_of_ne_nil (Text.pieces_ne_nil slash r)
    by_cases hc : c = slash
    · simp_all [Text.pieces, lead]
    · simp [Text.pieces, hroot, hc, hps, lead]

theorem start (p : Path) : Start p.text.bytes p.split := by
  unfold split
  split
  · next htext =>
    rw [htext]
    exact .bare fun hne => absurd rfl hne
  · next b r htext =>
    rw [htext]
    split
    · next hb => exact .root r (by rw [hb])
    · next hroot =>
      split
      · next hdot => exact .here (by rw [hdot.1, hdot.2])
      · next hdot =>
        split
        · next hbelow =>
          obtain ⟨rfl, hr⟩ := hbelow
          obtain ⟨r, rfl⟩ := List.head?_eq_some_iff.1 hr
          rw [Text.pieces, if_pos rfl]
          exact .below r rfl
        · next hbelow => exact .bare fun _ => lead_pieces hroot hdot hbelow

theorem components_of_empty (h : p.text.bytes = []) : p.components = [] := by
  simp [components, split, h, headComponent, isIdle]

theorem components_eq (h : p.text.bytes ≠ []) : p.components
    = lead (Text.pieces slash p.text.bytes)
      ++ ((Text.pieces slash p.text.bytes).filter (!isIdle ·)).map ofPiece := by
  unfold components
  have hstart := p.start
  generalize p.split = x at hstart
  cases hstart with
  | root r hr => simp [hr, Text.pieces, lead, headComponent, isIdle]
  | here hr => simp [hr, Text.pieces, lead, headComponent, isIdle]
  | below r hr => simp [hr, Text.pieces, lead, headComponent, isIdle]
  | bare hlead =>
    rw [hlead h]
    rfl

/-! ## Absolute paths -/

theorem split_of_bytes (h : p.text.bytes = slash :: r) :
    p.split = ([slash], Text.pieces slash r) := by
  simp [split, h]

theorem isAbsolute_iff : p.isAbsolute = true ↔ ∃ r, p.text.bytes = slash :: r := by
  cases htext : p.text.bytes with
  | nil => simp [isAbsolute, htext]
  | cons c r => simp [isAbsolute, htext]

/-- The components of an absolute path are the root and those of its pieces. -/
theorem components_of_bytes (h : p.text.bytes = slash :: r) : p.components
    = .root :: ((Text.pieces slash r).filter (!isIdle ·)).map ofPiece := by
  simp [components, split_of_bytes h, headComponent]

theorem ofPiece_ne_root (piece : List UInt8) : ofPiece piece ≠ .root := by
  unfold ofPiece
  split <;> simp

/-- A path with a root among its components starts there. -/
theorem isAbsolute_of_components (h : p.components = .root :: cs) : p.isAbsolute = true := by
  have hroot (ps : List (List UInt8)) : (ps.filter (!isIdle ·)).map ofPiece ≠ .root :: cs :=
    fun heq => by
      have hmem : Component.root ∈ (ps.filter (!isIdle ·)).map ofPiece := heq ▸ List.mem_cons_self
      obtain ⟨piece, -, hpiece⟩ := List.mem_map.1 hmem
      exact ofPiece_ne_root piece hpiece
  unfold components at h
  have hstart := p.start
  generalize p.split = x at hstart h
  cases hstart with
  | root r hr => simp [isAbsolute, hr]
  | here => simp [headComponent] at h
  | below r => simp [headComponent] at h
  | bare => exact absurd h (hroot _)

/-- The components of an absolute path after the root are those of its pieces. -/
theorem components_of_isAbsolute (h : p.isAbsolute = true) : p.components
    = .root :: ((Text.pieces slash p.text.bytes).filter (!isIdle ·)).map ofPiece := by
  obtain ⟨r, hr⟩ := isAbsolute_iff.1 h
  rw [components_of_bytes hr, hr, Text.pieces, if_pos rfl, List.filter_cons_of_neg (by decide)]

/-- Components that are added to those of a path do not make it absolute, nor the other way. -/
theorem isAbsolute_congr (h : p.components = q.components ++ cs) (hroot : cs.head? ≠ some .root) :
    p.isAbsolute = q.isAbsolute := by
  refine Bool.eq_iff_iff.2 ⟨fun hp => ?_, fun hq => ?_⟩
  · rw [components_of_isAbsolute hp] at h
    cases hq : q.components with
    | nil =>
      rw [hq, List.nil_append] at h
      exact absurd (by rw [← h]; rfl) hroot
    | cons c r =>
      rw [hq, List.cons_append] at h
      exact isAbsolute_of_components (hq.trans (by rw [← (List.cons.inj h).1]))
  · rw [components_of_isAbsolute hq] at h
    exact isAbsolute_of_components h

/-! ## Alike paths -/

theorem ofPiece_injective : Function.Injective ofPiece := by
  intro a b h
  by_cases ha : a = [dot, dot] <;> by_cases hb : b = [dot, dot]
  · exact ha.trans hb.symm
  · simp [ofPiece, ha, hb] at h
  · simp [ofPiece, ha, hb] at h
  · rw [ofPiece, ofPiece, if_neg ha, if_neg hb] at h
    exact congrArg RawText.bytes (Component.name.inj h)

/-- The components of the pieces are those that come after a root or a `.` at the start. -/
theorem filter_components (p : Path) : p.components.filter (2 ≤ ·.rank)
    = ((Text.pieces slash p.text.bytes).filter (!isIdle ·)).map ofPiece := by
  by_cases h : p.text.bytes = []
  · simp [components_of_empty h, h, Text.pieces, isIdle]
  · have hlead (ps : List (List UInt8)) : (lead ps).filter (2 ≤ ·.rank) = [] := by
      cases ps with
      | nil => rfl
      | cons piece ps =>
        rw [lead]
        split_ifs <;> rfl
    have hpiece (piece : List UInt8) : 2 ≤ (ofPiece piece).rank := by
      unfold ofPiece
      split <;> simp [Component.rank]
    rw [components_eq h, List.filter_append, hlead, List.nil_append]
    exact List.filter_eq_self.2 (List.forall_mem_map.2 fun piece _ => decide_eq_true (hpiece piece))

/-- Alike paths have the same pieces, apart from idle ones. -/
theorem filter_pieces_of_alike (h : p.Alike q) : (Text.pieces slash p.text.bytes).filter (!isIdle ·)
    = (Text.pieces slash q.text.bytes).filter (!isIdle ·) := by
  refine List.map_injective_iff.2 ofPiece_injective ?_
  rw [← filter_components, ← filter_components, h]

theorem isAbsolute_of_alike (h : p.Alike q) : p.isAbsolute = q.isAbsolute :=
  isAbsolute_congr (by rw [h, List.append_nil]) (by simp)

/-! ## Joined paths -/

theorem join_of_empty (h : p.text.bytes = []) (q : Path) : p.join q = q := by
  unfold join
  split
  · rfl
  · rw [if_pos (by simp [h])]
    exact Path.ext (RawText.ext (congrArg (· ++ q.text.bytes) h))

theorem join_ne_empty (p : Path) (hq : q.text.bytes ≠ []) : (p.join q).text.bytes ≠ [] := by
  unfold join
  split
  · exact hq
  · split <;> simp [hq]

/-- A path that is read from another is absolute exactly if one of them is. -/
theorem isAbsolute_join (p q : Path) : (p.join q).isAbsolute = (p.isAbsolute || q.isAbsolute) := by
  by_cases hp : p.text.bytes = []
  · have hrel : p.isAbsolute = false := by simp [isAbsolute, hp]
    rw [join_of_empty hp, hrel, Bool.false_or]
  · obtain ⟨c, r, hr⟩ := List.exists_cons_of_ne_nil hp
    unfold join
    split
    · next hq => rw [hq, Bool.or_true]
    · next hq =>
      rw [Bool.not_eq_true] at hq
      rw [hq, Bool.or_false]
      split <;> simp [isAbsolute, hr]

/-- The pieces of a path and of another one that is read from it. -/
theorem pieces_join (hp : p.text.bytes ≠ []) (hq : q.isAbsolute = false) :
    ∃ ps last, ps ≠ [] ∧ (∀ piece ∈ last, isIdle piece = true)
      ∧ Text.pieces slash p.text.bytes = ps ++ last
      ∧ Text.pieces slash (p.join q).text.bytes = ps ++ Text.pieces slash q.text.bytes := by
  by_cases hlast : p.text.bytes.getLast? = some slash
  · obtain ⟨a, ha⟩ := List.getLast?_eq_some_iff.1 hlast
    refine ⟨Text.pieces slash a, [[]], Text.pieces_ne_nil slash a, by simp [isIdle], ?_, ?_⟩
    · rw [ha, Text.pieces_append_cons]
      rfl
    · simp [join, hq, ha, Text.pieces_append_cons]
  · refine ⟨Text.pieces slash p.text.bytes, [], Text.pieces_ne_nil slash _, by simp,
      (List.append_nil _).symm, ?_⟩
    simp [join, hq, hp, hlast, Text.pieces_append_cons]

/-- A path that starts with a name or a `..` adds its components to those of the path that it is
read from. -/
theorem components_join (hq : lead (Text.pieces slash q.text.bytes) = []) :
    (p.join q).components = p.components ++ q.components := by
  have hne : q.text.bytes ≠ [] := by
    intro h
    simp [h, Text.pieces, lead] at hq
  have habs : q.isAbsolute = false := by
    refine Bool.eq_false_iff.2 fun habs => ?_
    obtain ⟨r, hr⟩ := isAbsolute_iff.1 habs
    simp [hr, Text.pieces, lead] at hq
  by_cases hp : p.text.bytes = []
  · rw [join_of_empty hp, components_of_empty hp, List.nil_append]
  · obtain ⟨ps, last, hps, hidle, hpieces, hjoined⟩ := pieces_join hp habs
    have hlast : last.filter (!isIdle ·) = [] := List.filter_eq_nil_iff.2 fun piece hpiece => by
      simp [hidle piece hpiece]
    rw [components_eq (join_ne_empty p hne), components_eq hp, components_eq hne, hpieces, hjoined,
      hq, lead_append hps, lead_append hps]
    simp [hlast]

end SourceMend.Path
