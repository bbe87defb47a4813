import SourceMend.Proofs.Catalog.Validity
import SourceMend.Proofs.Sorting

/-!
# Selecting steps

Steps are selected by their priorities.  If each of these is the priority of a step, the
selected steps are those that have them, in the order of the catalog (`select_eq_ok_iff`),
so what is selected is a catalog of its own (`ofSteps_of_select`).  Otherwise the
priorities that no step has are listed, ascending and each once
(`select_eq_error_iff`).  The order in which priorities are given does not matter, nor
how often (`select_congr`).
-/

namespace SourceMend.Catalog

variable {c : Catalog} {steps given sel : List Step} {ids ids' : List Nat}

/-! ## The selected steps -/

/-- The priorities that are selected. -/
def selected (c : Catalog) (ids? : Option (List Nat)) : List Nat :=
  ids?.getD (c.steps.map Step.priority)

/-- Steps are selected if all priorities exist, and then these are the steps that have them. -/
theorem select_eq_ok_iff {ids? : Option (List Nat)} : c.select ids? = .ok sel
    ↔ (∀ id ∈ c.selected ids?, ∃ s ∈ c.steps, s.priority = id)
      ∧ sel = c.steps.filter fun s => (c.selected ids?).contains s.priority := by
  cases ids? with
  | none =>
    have hall : (c.steps.filter fun s => (c.selected none).contains s.priority) = c.steps :=
      List.filter_eq_self.2 fun s hs =>
        List.contains_iff_mem.2 (List.mem_map_of_mem hs)
    rw [select, hall, Except.ok.injEq]
    exact ⟨fun h => ⟨fun id hid => List.mem_map.1 hid, h.symm⟩, fun h => h.2.symm⟩
  | some ids =>
    have hknown : (ids.filter fun id => !c.steps.any fun s => s.priority == id) = []
        ↔ ∀ id ∈ ids, ∃ s ∈ c.steps, s.priority = id := by
      simp [List.filter_eq_nil_iff]
    rw [select]
    show (if (ids.filter fun id => !c.steps.any fun s => s.priority == id).isEmpty then _ else _)
      = _ ↔ (∀ id ∈ ids, ∃ s ∈ c.steps, s.priority = id)
        ∧ sel = c.steps.filter fun s => ids.contains s.priority
    rw [← hknown]
    split
    · next hempty =>
      rw [Except.ok.injEq]
      exact ⟨fun h => ⟨List.isEmpty_iff.1 hempty, h.symm⟩, fun h => h.2.symm⟩
    · next hunknown => exact iff_of_false nofun fun h => hunknown (List.isEmpty_iff.2 h.1)

/-- What is selected are some steps of the catalog in their order. -/
theorem sublist_of_select {ids? : Option (List Nat)} (h : c.select ids? = .ok sel) :
    sel.Sublist c.steps := by
  rw [(select_eq_ok_iff.1 h).2]
  exact List.filter_sublist

/-- A part of the selected priorities selects that part of the selected steps. -/
theorem select_filter {ids? : Option (List Nat)} (h : c.select ids? = .ok sel) (q : Nat → Bool) :
    c.select (some ((c.selected ids?).filter q)) = .ok (sel.filter fun s => q s.priority) := by
  obtain ⟨hknown, rfl⟩ := select_eq_ok_iff.1 h
  refine select_eq_ok_iff.2 ⟨fun id hid => hknown id (List.mem_filter.1 hid).1, ?_⟩
  rw [List.filter_filter]
  refine List.filter_congr fun s _ => ?_
  rw [Bool.eq_iff_iff]
  simp only [selected, Option.getD_some, List.contains_iff_mem, List.mem_filter, Bool.and_eq_true]
  exact And.comm

/-- Ascending steps are cut at a priority. -/
theorem filter_append_filter (h : (steps.map Step.priority).Pairwise (· < ·)) (k : Nat) :
    (steps.filter fun s => s.priority ≤ k) ++ (steps.filter fun s => k < s.priority) = steps := by
  induction steps with
  | nil => rfl
  | cons s steps ih =>
    obtain ⟨hs, hsteps⟩ := List.pairwise_cons.1 h
    by_cases hk : s.priority ≤ k
    · rw [List.filter_cons_of_pos (by simpa using hk),
        List.filter_cons_of_neg (by simpa using hk), List.cons_append, ih hsteps]
    · have hlater : ∀ u ∈ s :: steps, k < u.priority := by
        intro u hu
        rcases List.mem_cons.1 hu with rfl | hu
        · exact Nat.lt_of_not_le hk
        · exact Nat.lt_trans (Nat.lt_of_not_le hk) (hs u.priority (List.mem_map_of_mem hu))
      rw [List.filter_eq_nil_iff.2 fun u hu => by simpa using hlater u hu,
        List.filter_eq_self.2 fun u hu => by simpa using hlater u hu, List.nil_append]

/-- What is selected is a catalog of its own. -/
theorem ofSteps_of_select {ids? : Option (List Nat)} (h : ofSteps given = .ok c)
    (hselect : c.select ids? = .ok sel) : ofSteps sel = .ok ⟨sel⟩ := by
  have hsub := sublist_of_select hselect
  exact ofSteps_eq_ok_iff_perm.2 ⟨(valid_of_ofSteps h).sublist hsub, .refl sel,
    (ascending_of_ofSteps h).sublist (hsub.map Step.priority)⟩

/-! ## Priorities in ascending order -/

theorem mem_ascending {id : Nat} : id ∈ ascending ids ↔ id ∈ ids := by
  rw [ascending, List.mem_eraseDups, List.mem_mergeSort]

theorem ascending_eq_nil_iff : ascending ids = [] ↔ ids = [] := by
  simp only [List.eq_nil_iff_forall_not_mem, mem_ascending]

theorem pairwise_ascending (ids : List Nat) : (ascending ids).Pairwise (· < ·) :=
  (pairwise_eraseDups (Ranking.nat.pairwise_mergeSort ids)).imp fun ⟨hle, hne⟩ =>
    Nat.lt_of_le_of_ne (of_decide_eq_true hle) hne

/-- Numbers can be listed in ascending order in one way only. -/
theorem eq_of_mem_iff_of_ascending (hids : ids.Pairwise (· < ·)) (hids' : ids'.Pairwise (· < ·))
    (h : ∀ id, id ∈ ids ↔ id ∈ ids') : ids = ids' :=
  hids.eq_of_mem_iff hids' fun {id} => h id

/-! ## What is selected, and what is unknown -/

/-- Some steps of a catalog, in its order, whose priorities are the given ones. -/
structure Selection (c : Catalog) (ids : List Nat) (sel : List Step) : Prop where
  /-- The steps are some of the catalog in their order. -/
  sublist : sel.Sublist c.steps
  /-- Their priorities are strictly ascending. -/
  ascending : (sel.map Step.priority).Pairwise (· < ·)
  /-- The priorities are the given ones. -/
  mem_iff : ∀ id, id ∈ sel.map Step.priority ↔ id ∈ ids

/-- All of the given priorities that no step has, of which there are some. -/
structure Unknown (c : Catalog) (ids unknown : List Nat) : Prop where
  /-- A priority is unknown. -/
  nonempty : unknown ≠ []
  /-- The unknown priorities are strictly ascending. -/
  ascending : unknown.Pairwise (· < ·)
  /-- They are given, and no step has them. -/
  mem_iff : ∀ id, id ∈ unknown ↔ id ∈ ids ∧ ∀ s ∈ c.steps, s.priority ≠ id

/-- The selected steps are the ones with the given priorities, of which none is unknown. -/
theorem select_eq_ok_iff_selection (hc : (c.steps.map Step.priority).Pairwise (· < ·)) :
    c.select (some ids) = .ok sel ↔ Selection c ids sel := by
  have hdistinct : (c.steps.map Step.priority).Nodup := hc.imp Nat.ne_of_lt
  constructor
  · intro h
    have hsub := sublist_of_select h
    refine ⟨hsub, hc.sublist (hsub.map Step.priority), fun id => ?_⟩
    obtain ⟨hknown, rfl⟩ := select_eq_ok_iff.1 h
    simp only [selected, Option.getD_some, List.mem_map, List.mem_filter, List.contains_iff_mem]
    constructor
    · rintro ⟨s, ⟨-, hid⟩, rfl⟩
      exact hid
    · intro hid
      obtain ⟨s, hs, rfl⟩ := hknown id hid
      exact ⟨s, ⟨hs, hid⟩, rfl⟩
  · intro h
    refine select_eq_ok_iff.2 ⟨fun id hid => ?_, ?_⟩
    · obtain ⟨s, hs, hsid⟩ := List.mem_map.1 ((h.mem_iff id).2 hid)
      exact ⟨s, h.sublist.subset hs, hsid⟩
    · have hfilter : (c.steps.filter fun s => ids.contains s.priority).Sublist c.steps :=
        List.filter_sublist
      refine eq_of_perm_of_ascending ?_ h.ascending (hc.sublist (hfilter.map Step.priority))
      refine (List.perm_ext_iff_of_nodup (hdistinct.of_map.sublist h.sublist)
        (hdistinct.of_map.sublist hfilter)).2 fun s => ?_
      rw [List.mem_filter, List.contains_iff_mem, ← h.mem_iff]
      constructor
      · exact fun hs => ⟨h.sublist.subset hs, List.mem_map_of_mem hs⟩
      · rintro ⟨hs, hid⟩
        obtain ⟨u, hu, huid⟩ := List.mem_map.1 hid
        exact List.inj_on_of_nodup_map hdistinct (h.sublist.subset hu) hs huid ▸ hu

/-- Priorities are selected or listed as unknown. -/
theorem select_eq_error_iff {e : CatalogError} : c.select (some ids) = .error e
    ↔ ∃ unknown, e = .unknownSteps unknown ∧ Unknown c ids unknown := by
  have hmem (id : Nat) : (id ∈ ids.filter fun id => !c.steps.any fun s => s.priority == id)
      ↔ id ∈ ids ∧ ∀ s ∈ c.steps, s.priority ≠ id := by
    simp
  generalize hunknown : (ids.filter fun id => !c.steps.any fun s => s.priority == id) = unknown
    at hmem
  have hselect : c.select (some ids) = if unknown.isEmpty
      then .ok (c.steps.filter fun s => ids.contains s.priority)
      else .error (.unknownSteps (ascending unknown)) := by
    rw [← hunknown]
    rfl
  rw [hselect]
  constructor
  · intro h
    split at h
    · cases h
    · next hempty =>
      cases h
      refine ⟨_, rfl, fun hnil => hempty ?_, pairwise_ascending unknown, fun id => ?_⟩
      · rw [ascending_eq_nil_iff.1 hnil, List.isEmpty_nil]
      · rw [mem_ascending, hmem]
  · rintro ⟨listed, rfl, hlisted⟩
    have heq : ascending unknown = listed :=
      eq_of_mem_iff_of_ascending (pairwise_ascending unknown) hlisted.ascending fun id => by
        rw [mem_ascending, hmem, hlisted.mem_iff]
    have hne : unknown ≠ [] := fun hnil =>
      hlisted.nonempty (heq ▸ ascending_eq_nil_iff.2 hnil)
    rw [if_neg (by rwa [List.isEmpty_iff]), heq]

/-- Neither the order of the given priorities matters, nor how often each is given. -/
theorem select_congr (h : ∀ id, id ∈ ids' ↔ id ∈ ids) :
    c.select (some ids') = c.select (some ids) := by
  cases hselect : c.select (some ids) with
  | ok sel =>
    obtain ⟨hknown, rfl⟩ := select_eq_ok_iff.1 hselect
    refine select_eq_ok_iff.2 ⟨fun id hid => hknown id ((h id).1 hid), ?_⟩
    refine List.filter_congr fun s _ => ?_
    rw [Bool.eq_iff_iff]
    simp only [selected, Option.getD_some, List.contains_iff_mem, h]
  | error e =>
    obtain ⟨unknown, rfl, hunknown⟩ := select_eq_error_iff.1 hselect
    refine select_eq_error_iff.2 ⟨unknown, rfl, hunknown.nonempty, hunknown.ascending, fun id => ?_⟩
    rw [hunknown.mem_iff, h]

end SourceMend.Catalog
