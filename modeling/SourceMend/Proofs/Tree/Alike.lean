import SourceMend.Proofs.Path.Components
import SourceMend.Proofs.Tree.Resolve

/-!
# Where alike paths lead

A path that resolves leads to the location that its components spell
(`aim_of_locate`, `aim_eq_foldl`), so alike paths that resolve lead to the same
location (`locate_of_alike`).  If one of them resolves, the other does so too
unless it ends with an idle piece (`locate_alike`): idle pieces anywhere else do
not stop a walk that goes on without them (`walk_of_filter`).
-/

namespace SourceMend.Tree

open RawText (slash dot)

variable {t : Tree} {p q : Path} {l m k : Location} {piece : List UInt8}
  {ps rest : List (List UInt8)}

/-- Where a piece of a path leads to. -/
def step (l : Location) (piece : List UInt8) : Location :=
  if Path.isIdle piece then l
  else if piece = [dot, dot] then l.dropLast
  else l ++ [⟨piece⟩]

/-- Where a component of a path leads to. -/
def follow (l : Location) : Path.Component → Location
  | .root => []
  | .here => l
  | .up => l.dropLast
  | .name n => l ++ [n]

theorem Enters.step_eq (h : Enters t l piece (.ok m)) : step l piece = m := by
  cases h with
  | idle _ hidle => rw [step, if_pos hidle]
  | up _ hidle hup => rw [step, if_neg (by simp [hidle]), if_pos hup]
  | name _ hidle hup => rw [step, if_neg (by simp [hidle]), if_neg hup]

theorem walk_eq_foldl {ps : List (List UInt8)} (h : t.walk l ps = .ok m) : ps.foldl step l = m := by
  induction ps generalizing l with
  | nil => exact Except.ok.inj h
  | cons piece rest ih =>
    obtain ⟨k, hk, hrest⟩ := walk_cons_eq_ok.1 h
    rw [List.foldl_cons, hk.step_eq]
    exact ih hrest

theorem aim_of_locate (h : t.locate p = .ok l) : t.aim p = l := by
  simp only [locate, bind, Except.bind] at h
  split at h
  · cases h
  · next x hs =>
    obtain ⟨rfl, -⟩ := start_eq_ok hs
    exact walk_eq_foldl h

/-- Pieces that stand for no component lead nowhere. -/
theorem foldl_step (ps : List (List UInt8)) (l : Location) :
    ps.foldl step l = ((ps.filter (!Path.isIdle ·)).map Path.ofPiece).foldl follow l := by
  induction ps generalizing l with
  | nil => rfl
  | cons piece rest ih =>
    rw [List.foldl_cons, ih]
    by_cases hidle : Path.isIdle piece = true
    · simp [step, hidle]
    · by_cases hup : piece = [dot, dot]
      · simp [step, hup, Path.ofPiece, follow, Path.isIdle]
      · simp [step, hidle, hup, Path.ofPiece, follow]

/-- A path leads to where its components lead. -/
theorem aim_eq_foldl (t : Tree) (p : Path) : t.aim p = p.components.foldl follow t.here := by
  have haim : t.aim p = (Text.pieces slash p.text.bytes).foldl step (t.origin p) := rfl
  rw [haim]
  unfold Path.components
  have hstart := p.start
  generalize p.split = x at hstart
  cases hstart with
  | root r h =>
    simp [origin, Path.isAbsolute, h, Text.pieces, foldl_step, step, Path.headComponent, follow,
      Path.isIdle]
  | here h =>
    simp [origin, Path.isAbsolute, h, Text.pieces, step, Path.headComponent, follow, Path.isIdle]
  | below r h =>
    simp [origin, Path.isAbsolute, h, Text.pieces, foldl_step, step, Path.headComponent, follow,
      Path.isIdle]
  | bare hlead =>
    have habs : p.isAbsolute = false := by
      refine Bool.eq_false_iff.2 fun habs => ?_
      obtain ⟨r, h⟩ := Path.isAbsolute_iff.1 habs
      have hlead := hlead (by simp [h])
      simp [h, Text.pieces, Path.lead] at hlead
    simp [origin, habs, foldl_step, Path.headComponent]

/-- Alike paths that resolve lead to the same location. -/
theorem locate_of_alike (h : p.Alike q) (hp : t.locate p = .ok l) (hq : t.locate q = .ok m) :
    l = m := by
  rw [← aim_of_locate hp, ← aim_of_locate hq, aim_eq_foldl, aim_eq_foldl, h]

/-! ## Walks without idle pieces -/

/-- An idle piece leads from a directory to itself. -/
theorem enters_idle_iff (h : Path.isIdle piece = true) :
    Enters t l piece (.ok k) ↔ t.get? l = some .directory ∧ l = k := by
  constructor
  · intro hk
    cases hk with
    | idle hdir => exact ⟨hdir, rfl⟩
    | up _ hidle => simp [h] at hidle
    | name _ hidle => simp [h] at hidle
  · rintro ⟨hdir, rfl⟩
    exact .idle hdir h

/-- A walk does not need its idle pieces. -/
theorem walk_filter (h : t.walk l ps = .ok m) :
    t.walk l (ps.filter (!Path.isIdle ·)) = .ok m := by
  induction ps generalizing l with
  | nil => exact h
  | cons piece rest ih =>
    obtain ⟨k, hk, hrest⟩ := walk_cons_eq_ok.1 h
    by_cases hidle : Path.isIdle piece = true
    · obtain ⟨-, rfl⟩ := (enters_idle_iff hidle).1 hk
      rw [List.filter_cons_of_neg (by simp [hidle])]
      exact ih hrest
    · rw [List.filter_cons_of_pos (by simp [hidle])]
      exact walk_cons_eq_ok.2 ⟨k, hk, ih hrest⟩

/-- Idle pieces do not stop a walk that goes on after them. -/
theorem walk_of_filter (hlast : ∀ last, ps.getLast? = some last → Path.isIdle last = false)
    (h : t.walk l (ps.filter (!Path.isIdle ·)) = .ok m) : t.walk l ps = .ok m := by
  induction ps generalizing l with
  | nil => exact h
  | cons piece rest ih =>
    have hrest : ∀ last, rest.getLast? = some last → Path.isIdle last = false := fun last hl =>
      hlast last (by rw [List.getLast?_cons, hl]; rfl)
    by_cases hidle : Path.isIdle piece = true
    · rw [List.filter_cons_of_neg (by simp [hidle])] at h
      -- a piece that is not idle follows, and the walk goes on to it from a directory
      have hdir : t.get? l = some .directory := by
        cases hend : rest.getLast? with
        | none =>
          obtain rfl := List.getLast?_eq_none_iff.1 hend
          simp [hlast piece rfl] at hidle
        | some last =>
          have hmem : last ∈ rest.filter (!Path.isIdle ·) :=
            List.mem_filter.2 ⟨List.mem_of_getLast? hend, by simp [hrest last hend]⟩
          obtain ⟨next, after, hnext⟩ := List.exists_cons_of_ne_nil (List.ne_nil_of_mem hmem)
          obtain ⟨_, hk, -⟩ := walk_cons_eq_ok.1 (hnext ▸ h)
          exact hk.directory
      exact walk_cons_eq_ok.2 ⟨l, (enters_idle_iff hidle).2 ⟨hdir, rfl⟩, ih hrest h⟩
    · rw [List.filter_cons_of_pos (by simp [hidle])] at h
      obtain ⟨k, hk, h⟩ := walk_cons_eq_ok.1 h
      exact walk_cons_eq_ok.2 ⟨k, hk, ih hrest h⟩

/-- A path alike to one that resolves does so too, unless it ends with an idle piece. -/
theorem locate_alike (h : p.Alike q) (hp : t.locate p = .ok l)
    (hlast : ∀ last, (Text.pieces slash q.text.bytes).getLast? = some last →
      Path.isIdle last = false) : t.locate q = .ok l := by
  have hs := start_of_locate hp
  have hpieces := Path.filter_pieces_of_alike h
  have horigin : t.origin q = t.origin p := by
    rw [origin, origin, Path.isAbsolute_of_alike h]
  have hempty : q.text.bytes ≠ [] := by
    intro hempty
    have hidle := hlast [] (by simp [hempty, Text.pieces])
    simp [Path.isIdle] at hidle
  have hnul : 0 ∉ q.text.bytes := by
    intro hmem
    obtain ⟨piece, hpiece, hin⟩ := Text.exists_mem_pieces hmem (x := slash) (by decide)
    have hidle : Path.isIdle piece = false := by
      simp only [Path.isIdle, Bool.or_eq_false_iff, beq_eq_false_iff_ne, ne_eq]
      refine ⟨?_, ?_⟩ <;> rintro rfl <;> exact absurd hin (by decide)
    have hkept : piece ∈ (Text.pieces slash p.text.bytes).filter (!Path.isIdle ·) := by
      rw [hpieces]
      exact List.mem_filter.2 ⟨hpiece, by simp [hidle]⟩
    exact (start_eq_ok hs).2 (Text.mem_of_mem_pieces (List.mem_filter.1 hkept).1 hin).1
  have hstart : t.start q = .ok (t.origin p, Text.pieces slash q.text.bytes) := by
    simp [start, hempty, hnul, horigin]
  rw [locate_eq hs] at hp
  rw [locate_eq hstart]
  exact walk_of_filter hlast (hpieces ▸ walk_filter hp)

end SourceMend.Tree
