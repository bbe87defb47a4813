import SourceMend.Path.Relative
import SourceMend.Proofs.Path.Along
import SourceMend.Proofs.Text.Raw

/-!
# How a path below another is shown

A path is *below* a base when its components are those of the base and some names after them
(`Below`).  The path that leads there from the base goes along these names
(`Below.relativeTo?_eq`), and it is shown with a slash for every backslash (`Below.shown_eq`).
Reading the names from the base gives a path that is alike (`Below.alike_join`).
-/

namespace SourceMend.Path

variable {p base : Path} {ns : List RawText}

/-! ## Paths below another -/

/-- That the names `ns` lead from `base` to `p`. -/
structure Below (base p : Path) (ns : List RawText) : Prop where
  /-- The names come after the components of the base. -/
  components : p.components = base.components ++ ns.map .name
  /-- They can be names of files. -/
  names : ∀ n ∈ ns, Tree.isName n = true
  /-- There is at least one. -/
  ne_nil : ns ≠ []

/-- The path made of some names goes along them. -/
theorem ofComponents_names (hns : ∀ n ∈ ns, Tree.isName n = true) :
    ofComponents (ns.map .name) = along ns := by
  induction ns using List.reverseRecOn with
  | nil => rfl
  | append_singleton r n ih =>
    obtain ⟨hr, hn⟩ := List.forall_mem_append.1 hns
    rw [← child_along hr (hn n List.mem_cons_self), ← ih hr, List.map_append, ofComponents,
      List.foldl_append]
    rfl

/-- From components to the same and more there are only those steps. -/
theorem steps_append (bs as : List Component) : steps (bs ++ as) bs = some as := by
  induction bs with
  | nil => cases as <;> rfl
  | cons b bs ih => rw [List.cons_append, steps, if_pos rfl, ih]

/-- The text with a slash for every backslash. -/
def slashed (s : String) : String := s.map fun c => if c = '\\' then '/' else c

theorem slashed_eq_self {s : String} (h : '\\' ∉ s.toList) : slashed s = s := by
  have hkeep : ∀ c ∈ s.toList, (if c = '\\' then '/' else c) = id c := fun c hc =>
    if_neg (by rintro rfl; exact h hc)
  rw [← String.toList_inj, slashed, String.toList_map, List.map_congr_left hkeep, List.map_id]

theorem backslash_not_mem_slashed (s : String) : '\\' ∉ (slashed s).toList := by
  intro hmem
  rw [slashed, String.toList_map] at hmem
  obtain ⟨c, -, hc⟩ := List.mem_map.1 hmem
  split at hc
  · cases hc
  · contradiction

/-- Names that are strings without backslashes make such a string. -/
theorem exists_text_along (h : ∀ n ∈ ns, ∃ s : String, n = s ∧ '\\' ∉ s.toList) :
    ∃ s : String, (along ns).text = s ∧ '\\' ∉ s.toList := by
  induction ns with
  | nil => exact ⟨"", rfl, by decide⟩
  | cons n r ih =>
    obtain ⟨⟨s, rfl, hs⟩, hr⟩ := List.forall_mem_cons.1 h
    by_cases hne : r = []
    · subst hne
      exact ⟨s, rfl, hs⟩
    · obtain ⟨s', htext, hs'⟩ := ih hr
      refine ⟨s ++ "/" ++ s', RawText.ext ?_, by simp [hs, hs']⟩
      rw [RawText.ofString_append, RawText.ofString_append, ← htext, RawText.bytes_append,
        RawText.bytes_append, RawText.bytes_ofString_slash]
      exact Text.join_cons (by simpa using hne)

namespace Below

theorem isAbsolute_eq (h : Below base p ns) : p.isAbsolute = base.isAbsolute :=
  isAbsolute_congr h.components (by simp)

theorem relativeTo?_eq (h : Below base p ns) : p.relativeTo? base = some (along ns) := by
  rw [relativeTo?, if_pos h.isAbsolute_eq, h.components, steps_append, Option.map_some,
    ofComponents_names h.names]

theorem shown_eq (h : Below base p ns) : p.shown base = slashed (along ns).display := by
  have hne := along_ne_empty h.names h.ne_nil
  simp [shown, h.relativeTo?_eq, Option.filter, hne, slashed]

/-- The names read from the base give a path that is alike. -/
theorem alike_join (h : Below base p ns) : p.Alike (base.join (along ns)) :=
  h.components.trans (components_join_along h.names h.ne_nil base).symm

end Below

end SourceMend.Path
