import Mathlib.Data.List.Induction
import Mathlib.Data.List.Sort
import SourceMend.Tree

/-!
# What stands in a tree

Putting an entry changes what stands at its location and nothing else (`get?_put`), and trees in
which the same stands everywhere are equal (`eq_of_get?_eq`).  What exists has a name and stands in
a directory (`get?_parent`).
-/

namespace SourceMend.Tree

variable {t t' : Tree} {p : Path} {l m d : Location} {e : Entry} {n : RawText} {bytes : ByteArray}

/-! ## Placing an entry -/

theorem lookup_place (l : Location) (e : Entry) (m : Location) (es : List (Location × Entry)) :
    (place l e es).lookup m = if m = l then some e else es.lookup m := by
  induction es with
  | nil =>
    by_cases h : m = l
    · simp [place, h]
    · simp [place, List.lookup_cons, h, beq_eq_false_iff_ne.2 h]
  | cons y r ih =>
    obtain ⟨k, x⟩ := y
    simp only [place]
    split
    · next hk =>
      subst hk
      by_cases h : m = k
      · simp [h]
      · simp [List.lookup_cons, h, beq_eq_false_iff_ne.2 h]
    · next hk =>
      split
      · by_cases h : m = l
        · simp [h]
        · simp [List.lookup_cons, h, beq_eq_false_iff_ne.2 h]
      · by_cases h : m = k
        · subst h
          simp [hk]
        · simp [List.lookup_cons, beq_eq_false_iff_ne.2 h, ih]

theorem ne_nil_of_fits (h : t.fits l e = true) : l ≠ [] := by
  rintro rfl
  simp [fits] at h

theorem get?_put (h : t.fits l e = true) (m : Location) :
    (t.put l e).get? m = if m = l then some e else t.get? m := by
  have hl := ne_nil_of_fits h
  by_cases hm : m = []
  · simp [get?, hm, Ne.symm hl]
  · simp [get?, put, h, hm, lookup_place]

@[simp] theorem here_put (t : Tree) (l : Location) (e : Entry) : (t.put l e).here = t.here := by
  unfold put
  split <;> rfl

/-- Trees are equal when the same stands everywhere. -/
theorem eq_of_get?_eq (hhere : t.here = t'.here) (h : ∀ l, t.get? l = t'.get? l) : t = t' := by
  have hmem (x : Location × Entry) : x ∈ t.entries ↔ x ∈ t'.entries := by
    have hget := h x.1
    simp only [get?] at hget
    split at hget
    · next hnil =>
      have hnot (s : Tree) : x ∉ s.entries := fun hx => by
        obtain ⟨d, n, hdn, -⟩ := s.rooted x hx
        simp [hnil] at hdn
      exact iff_of_false (hnot t) (hnot t')
    · rw [← t.ascending.lookup_eq_some_iff, ← t'.ascending.lookup_eq_some_iff, hget]
  have : Std.Asymm fun x y : Location × Entry => before x.1 y.1 = true :=
    ⟨fun x y hxy hyx => by simpa [before_irrefl] using before_trans hxy hyx⟩
  have hentries := t.ascending.eq_of_mem_iff t'.ascending hmem
  cases t
  cases t'
  cases hentries
  cases hhere
  rfl

/-! ## Directories on the way -/

theorem get?_nil (t : Tree) : t.get? [] = some .directory := by simp [get?]

/-- What exists has a name and stands in a directory. -/
theorem get?_parent (h : t.get? (d ++ [n]) = some e) :
    isName n = true ∧ t.get? d = some .directory := by
  obtain ⟨d', n', heq, hn, hd⟩ := t.rooted _ (mem_entries_of_get? h (by simp))
  obtain ⟨rfl, rfl⟩ : d = d' ∧ n = n' := by simpa using heq
  refine ⟨hn, ?_⟩
  by_cases hnil : d = []
  · exact hnil ▸ get?_nil t
  · rw [get?, if_neg hnil]
    exact t.ascending.lookup_eq_some_iff.2 (hd.resolve_left hnil)

/-- The way to what exists begins with an existing name, a directory unless the way ends there. -/
theorem get?_append_cons {r : List RawText} (h : t.get? (l ++ n :: r) = some e) :
    isName n = true ∧ ∃ x, t.get? (l ++ [n]) = some x ∧ (r ≠ [] → x = .directory) := by
  induction r using List.reverseRecOn generalizing e with
  | nil => exact ⟨(get?_parent h).1, e, h, fun hne => absurd rfl hne⟩
  | append_singleton r k ih =>
    have hparent : t.get? (l ++ n :: r) = some .directory := by
      have heq : l ++ n :: (r ++ [k]) = (l ++ n :: r) ++ [k] := by simp
      exact (get?_parent (heq ▸ h)).2
    obtain ⟨hn, x, hx, hdir⟩ := ih hparent
    refine ⟨hn, x, hx, fun _ => ?_⟩
    by_cases hr : r = []
    · subst hr
      rw [hparent] at hx
      exact (Option.some.inj hx).symm
    · exact hdir hr

/-- The parent of a directory is a directory. -/
theorem get?_dropLast (h : t.get? d = some .directory) : t.get? d.dropLast = some .directory := by
  rcases List.eq_nil_or_concat d with rfl | ⟨k, n, rfl⟩
  · exact h
  · rw [List.concat_eq_append] at h
    simpa using (get?_parent h).2

end SourceMend.Tree
