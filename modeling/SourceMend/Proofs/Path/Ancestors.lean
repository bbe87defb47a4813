import Mathlib.Data.List.Infix
import Mathlib.Data.List.TakeWhile
import SourceMend.Proofs.Path.Components
import SourceMend.Proofs.Text.Join

/-!
# The ancestors of a path

What is left when the last component of a path is taken away has the components before it
(`Leaves.components`).  The path loses text by it (`length_parent?_lt`), so this comes to an end,
and what is left on the way are the *ancestors* of the path, itself included.  Those of an
absolute path are absolute (`isAbsolute_of_mem_ancestors`), and their components are the starts of
its components, from the longest to the root alone (`map_components_ancestors`).
-/

namespace SourceMend.Path

open RawText (slash dot)

variable {p q : Path} {last : List UInt8} {before : List (List UInt8)} {r : List UInt8}

/-! ## The last component -/

/-- A path is what it starts with and its pieces, with separators between them. -/
theorem bytes_eq_split (p : Path) : p.text.bytes = p.split.1 ++ Text.join [slash] p.split.2 := by
  have hstart := p.start
  generalize p.split = x at hstart
  cases hstart with
  | root r hr => rw [hr, Text.join_pieces, List.singleton_append]
  | here hr => rw [hr, Text.join, List.append_nil]
  | below r hr =>
    rw [hr, Text.join_cons (Text.pieces_ne_nil slash r), Text.join_pieces]
    rfl
  | bare => rw [Text.join_pieces, List.nil_append]

/-- The last piece that is not idle, and the idle ones after it. -/
theorem split_of_reversedPieces (h : p.reversedPieces = last :: before) :
    isIdle last = false ∧ ∃ rest, (∀ piece ∈ rest, isIdle piece = true)
      ∧ p.split.2 = before.reverse ++ last :: rest := by
  have hlast := List.head?_dropWhile_not isIdle p.split.2.reverse
  rw [← reversedPieces, h] at hlast
  have hsplit := List.takeWhile_append_dropWhile (p := isIdle) (l := p.split.2.reverse)
  rw [← reversedPieces, h] at hsplit
  refine ⟨hlast, (p.split.2.reverse.takeWhile isIdle).reverse, fun piece hpiece => ?_, ?_⟩
  · exact List.mem_takeWhile_imp (List.mem_reverse.1 hpiece)
  · have hpieces := congrArg List.reverse hsplit
    rw [List.reverse_append, List.reverse_cons, List.reverse_reverse] at hpieces
    simpa using hpieces.symm

/-- Without a piece that is not idle, all pieces are idle. -/
theorem idle_of_reversedPieces (h : p.reversedPieces = []) : ∀ piece ∈ p.split.2,
    isIdle piece = true := fun piece hpiece =>
  List.dropWhile_eq_nil_iff.1 h piece (List.mem_reverse.2 hpiece)

/-- What a parent leaves out of a path: the last piece that is not idle, and the idle ones around
it. -/
structure Leaves (p q : Path) (front gap : List (List UInt8)) (last : List UInt8)
    (rest : List (List UInt8)) : Prop where
  /-- The pieces of the path. -/
  pieces : p.split.2 = front ++ gap ++ last :: rest
  /-- The pieces before the last one that are left out are idle. -/
  gap : ∀ piece ∈ gap, isIdle piece = true
  /-- The last piece is not idle. -/
  last : isIdle last = false
  /-- The pieces after the last one are idle. -/
  rest : ∀ piece ∈ rest, isIdle piece = true
  /-- The first pieces make up the parent. -/
  text : q.text.bytes = p.split.1 ++ Text.join [slash] front

/-- The parent of a path with a piece that is not idle leaves out the last such piece. -/
theorem leaves_of_reversedPieces (h : p.reversedPieces = last :: before) :
    ∃ q front gap rest, p.parent? = some q ∧ p.Leaves q front gap last rest := by
  obtain ⟨hlast, rest, hrest, hpieces⟩ := split_of_reversedPieces h
  refine ⟨⟨⟨p.split.1 ++ Text.join [slash] (before.dropWhile isIdle).reverse⟩⟩,
    (before.dropWhile isIdle).reverse, (before.takeWhile isIdle).reverse, rest, by rw [parent?, h],
    ?_, fun piece hpiece => ?_, hlast, hrest, rfl⟩
  · rw [hpieces, ← List.reverse_append, List.takeWhile_append_dropWhile]
  · exact List.mem_takeWhile_imp (List.mem_reverse.1 hpiece)

theorem leaves_of_parent? (h : p.parent? = some q) :
    (∃ front gap last rest, p.Leaves q front gap last rest)
      ∨ p.split.1 = [dot] ∧ q.text.bytes = [] := by
  cases hreversed : p.reversedPieces with
  | cons last before =>
    obtain ⟨q', front, gap, rest, hparent, hleaves⟩ := leaves_of_reversedPieces hreversed
    obtain rfl : q = q' := Option.some.inj (h.symm.trans hparent)
    exact .inl ⟨front, gap, last, rest, hleaves⟩
  | nil =>
    rw [parent?, hreversed] at h
    obtain ⟨hdot, hq⟩ := Option.ite_none_right_eq_some.1 h
    exact .inr ⟨hdot, by rw [← Option.some.inj hq]; rfl⟩

/-- A parent is shorter. -/
theorem length_parent?_lt (h : p.parent? = some q) : q.text.bytes.length < p.text.bytes.length := by
  rw [p.bytes_eq_split]
  rcases leaves_of_parent? h with ⟨front, gap, last, rest, hleaves⟩ | ⟨hdot, hq⟩
  · have hne : last ≠ [] := by
      rintro rfl
      exact absurd hleaves.last (by decide)
    have hmem : last ∈ gap ++ last :: rest := by simp
    have hlt := Text.length_join_lt [slash] front hmem hne
    rw [hleaves.text, hleaves.pieces, List.append_assoc, List.length_append, List.length_append]
    omega
  · simp [hdot, hq]

/-- The pieces of a path have no separator. -/
theorem slash_not_mem_of_split {piece : List UInt8} (h : piece ∈ p.split.2) : slash ∉ piece := by
  intro hslash
  have hstart := p.start
  generalize p.split = x at hstart h
  cases hstart with
  | root => exact (Text.mem_of_mem_pieces h hslash).2 rfl
  | here => cases h
  | below =>
    rcases List.mem_cons.1 h with rfl | h
    · cases hslash
    · exact (Text.mem_of_mem_pieces h hslash).2 rfl
  | bare => exact (Text.mem_of_mem_pieces h hslash).2 rfl

/-- Pieces that are joined keep their components. -/
theorem filter_pieces_join {front : List (List UInt8)} (h : ∀ piece ∈ front, slash ∉ piece) :
    (Text.pieces slash (Text.join [slash] front)).filter (!isIdle ·) = front.filter (!isIdle ·) := by
  by_cases hfront : front = []
  · subst hfront
    rfl
  · rw [Text.pieces_join hfront h]

/-- The components of pieces that are joined after a `.`. -/
theorem components_of_here_join {front : List (List UInt8)} (h : ∀ piece ∈ front, slash ∉ piece)
    (hfirst : ∀ piece ∈ front.head?, piece = [])
    (hq : q.text.bytes = dot :: Text.join [slash] front) :
    q.components = .here :: (front.filter (!isIdle ·)).map ofPiece := by
  have hne : q.text.bytes ≠ [] := fun hne => by simp [hne] at hq
  cases front with
  | nil => simp [components_eq hne, hq, Text.join, Text.pieces, lead, isIdle]
  | cons piece front =>
    obtain rfl : piece = [] := hfirst piece rfl
    have hjoined := Text.pieces_join (List.cons_ne_nil [] front) h
    simp [components_eq hne, hq, Text.pieces, hjoined, lead, isIdle]

/-- The components of pieces that are joined and do not lead anywhere by themselves. -/
theorem components_of_relative_join {front : List (List UInt8)} (h : ∀ piece ∈ front, slash ∉ piece)
    (hlead : lead front = []) (hq : q.text.bytes = Text.join [slash] front) :
    q.components = (front.filter (!isIdle ·)).map ofPiece := by
  have hkept := filter_pieces_join h
  by_cases hne : q.text.bytes = []
  · rw [components_of_empty hne, ← hkept, ← hq, hne]
    rfl
  · have hfront : front ≠ [] := by
      rintro rfl
      simp [hne, Text.join] at hq
    rw [components_eq hne, hq, hkept, Text.pieces_join hfront h, hlead]
    rfl

/-- The components of a parent are those of the first pieces. -/
theorem Leaves.components_parent {front gap rest : List (List UInt8)}
    (h : p.Leaves q front gap last rest) :
    q.components = headComponent p.split.1 ++ (front.filter (!isIdle ·)).map ofPiece := by
  have hslash : ∀ piece ∈ front, slash ∉ piece := fun piece hpiece =>
    slash_not_mem_of_split (p := p) (by rw [h.pieces]; simp [hpiece])
  have hpieces := h.pieces
  have htext := h.text
  have hstart := p.start
  generalize p.split = x at hstart hpieces htext ⊢
  cases hstart with
  | root r hr =>
    rw [components_of_bytes (show q.text.bytes = slash :: Text.join [slash] front from htext),
      filter_pieces_join hslash]
    rfl
  | here => simp at hpieces
  | below r hr =>
    -- a separator follows the dot, so the first piece is empty
    refine components_of_here_join hslash (fun piece hpiece => ?_) htext
    obtain ⟨front, rfl⟩ := List.head?_eq_some_iff.1 hpiece
    exact (List.cons.inj hpieces).1.symm
  | bare hlead =>
    refine components_of_relative_join hslash ?_ htext
    by_cases hfront : front = []
    · rw [hfront]
      rfl
    have hp : p.text.bytes ≠ [] := by
      intro hp
      have hlength := congrArg List.length hpieces
      have hpos := List.length_pos_iff.2 hfront
      simp only [hp, Text.pieces, List.length_append, List.length_cons, List.length_nil] at hlength
      omega
    rw [← hlead hp, ← lead_append hfront (gap ++ last :: rest), ← List.append_assoc]
    exact congrArg lead hpieces.symm

/-- A parent has one component less. -/
theorem Leaves.components {front gap rest : List (List UInt8)} (h : p.Leaves q front gap last rest) :
    p.components = q.components ++ [ofPiece last] := by
  have hgap : gap.filter (!isIdle ·) = [] := List.filter_eq_nil_iff.2 fun x hx => by
    simp [h.gap x hx]
  have hrest : rest.filter (!isIdle ·) = [] := List.filter_eq_nil_iff.2 fun x hx => by
    simp [h.rest x hx]
  rw [h.components_parent]
  simp [Path.components, h.pieces, hgap, hrest, h.last]

/-- The components of a path with a name are those of its parent and the name. -/
theorem parent?_of_fileName? {n : RawText} (h : p.fileName? = some n) :
    ∃ q, p.parent? = some q ∧ p.components = q.components ++ [.name n] := by
  unfold fileName? at h
  split at h
  · next last before hreversed =>
    obtain ⟨q, front, gap, rest, hparent, hleaves⟩ := leaves_of_reversedPieces hreversed
    obtain ⟨hup, hn⟩ := Option.ite_none_left_eq_some.1 h
    refine ⟨q, hparent, ?_⟩
    rw [hleaves.components, ofPiece, if_neg hup, Option.some.inj hn]
  · cases h

/-! ## Ancestors -/

/-- The path and what is left of it as one component after the other is taken away. -/
def ancestors (p : Path) : List Path :=
  p :: match _h : p.parent? with
    | some q => q.ancestors
    | none => []
termination_by p.text.bytes.length
decreasing_by exact length_parent?_lt _h

theorem ancestors_of_parent? (h : p.parent? = some q) : p.ancestors = p :: q.ancestors := by
  rw [ancestors]
  split
  · next q' hq' =>
    rw [h] at hq'
    cases hq'
    rfl
  · next hnone =>
    rw [h] at hnone
    cases hnone

theorem ancestors_of_no_parent (h : p.parent? = none) : p.ancestors = [p] := by
  rw [ancestors]
  split
  · next q hq =>
    rw [h] at hq
    cases hq
  · rfl

/-- What holds of a path if it holds of its parent holds of every path. -/
@[elab_as_elim]
theorem parent_induction {P : Path → Prop} (top : ∀ p, p.parent? = none → P p)
    (step : ∀ p q, p.parent? = some q → P q → P p) (p : Path) : P p := by
  induction hn : p.text.bytes.length using Nat.strongRecOn generalizing p with
  | ind n ih =>
    cases h : p.parent? with
    | none => exact top p h
    | some q => exact step p q h (ih q.text.bytes.length (hn ▸ length_parent?_lt h) q rfl)

/-- The parent of a path is absolute exactly if the path is. -/
theorem isAbsolute_parent? (h : p.parent? = some q) : q.isAbsolute = p.isAbsolute := by
  rcases leaves_of_parent? h with ⟨front, gap, last, rest, hleaves⟩ | ⟨hdot, hq⟩
  · exact (isAbsolute_congr hleaves.components (by simpa using ofPiece_ne_root last)).symm
  · have hp : p.isAbsolute = false := by
      refine Bool.eq_false_iff.2 fun habs => ?_
      obtain ⟨r, hr⟩ := isAbsolute_iff.1 habs
      rw [split_of_bytes hr] at hdot
      cases hdot
    rw [hp, isAbsolute, hq]
    rfl

theorem isAbsolute_of_mem_ancestors (h : q ∈ p.ancestors) : q.isAbsolute = p.isAbsolute := by
  induction p using parent_induction with
  | top p hp =>
    rw [ancestors_of_no_parent hp, List.mem_singleton] at h
    rw [h]
  | step p p' hp ih =>
    rw [ancestors_of_parent? hp] at h
    rcases List.mem_cons.1 h with rfl | h
    · rfl
    · exact (ih h).trans (isAbsolute_parent? hp)

/-! ## Ancestors of an absolute path -/

/-- The parent of an absolute path has one component less. -/
theorem components_parent? (habs : p.isAbsolute = true) (h : p.parent? = some q) :
    ∃ c, p.components = q.components ++ [c] := by
  rcases leaves_of_parent? h with ⟨front, gap, last, rest, hleaves⟩ | ⟨hdot, -⟩
  · exact ⟨ofPiece last, hleaves.components⟩
  · obtain ⟨r, hr⟩ := isAbsolute_iff.1 habs
    rw [split_of_bytes hr] at hdot
    cases hdot

/-- Only the root directory has no parent among absolute paths. -/
theorem components_of_no_parent (habs : p.isAbsolute = true) (h : p.parent? = none) :
    p.components = [.root] := by
  obtain ⟨r, hr⟩ := isAbsolute_iff.1 habs
  have hidle : ∀ piece ∈ Text.pieces slash r, isIdle piece = true := by
    unfold parent? at h
    split at h
    · cases h
    · next hreversed =>
      have hall := idle_of_reversedPieces hreversed
      rwa [split_of_bytes hr] at hall
  have hnone : (Text.pieces slash r).filter (!isIdle ·) = [] :=
    List.filter_eq_nil_iff.2 fun piece hpiece => by simp [hidle piece hpiece]
  rw [components_of_bytes hr, hnone, List.map_nil]

/-- The components of the ancestors of an absolute path are the starts of its components, the
longest first, and the last of them is the root directory. -/
theorem map_components_ancestors (habs : p.isAbsolute = true) :
    p.ancestors.map components = p.components.inits.tail.reverse := by
  induction p using parent_induction with
  | top p hp =>
    rw [ancestors_of_no_parent hp, List.map_singleton, components_of_no_parent habs hp]
    rfl
  | step p p' hp ih =>
    have habs' := (isAbsolute_parent? hp).trans habs
    obtain ⟨c, hc⟩ := components_parent? habs hp
    have hne : p'.components.inits ≠ [] := by
      cases p'.components <;> simp [List.inits]
    rw [ancestors_of_parent? hp, List.map_cons, ih habs', hc, List.inits_append,
      List.tail_append_of_ne_nil hne]
    simp

end SourceMend.Path
