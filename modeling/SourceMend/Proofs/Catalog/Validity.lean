import Mathlib.Data.List.Flatten
import Mathlib.Data.List.Nodup
import Mathlib.Data.List.Pairwise
import SourceMend.Catalog
import SourceMend.Proofs.Sorting

/-!
# Valid catalogs

Steps are *valid* when no name is blank, no two steps and no two rules share a
name and no two steps share a priority (`Catalog.Valid`).  The checks of
`Catalog.ofSteps` find nothing in valid steps, and something in all others.  So
the steps of a catalog are valid and in strictly ascending priority
(`valid_of_ofSteps`, `ascending_of_ofSteps`).  There is only one way to arrange steps
so (`eq_of_perm_of_ascending`), and the order in which they are given is forgotten
(`ofSteps_forgets_order`).
-/

namespace SourceMend.Catalog

variable {c : Catalog} {steps given sel : List Step} {used used' names : List String}

/-- Steps whose names and priorities tell them apart. -/
structure Valid (steps : List Step) : Prop where
  /-- No step has a blank name. -/
  named : ∀ s ∈ steps, isBlankName s.name = false
  /-- No rule has a blank name. -/
  ruleNamed : ∀ s ∈ steps, ∀ r ∈ s.rules, isBlankName r.name = false
  /-- No two steps share a name. -/
  names : (steps.map Step.name).Nodup
  /-- No two rules share a name. -/
  ruleNames : ((steps.flatMap Step.rules).map Rule.name).Nodup
  /-- No two steps share a priority. -/
  priorities : (steps.map Step.priority).Nodup

theorem Valid.sublist (h : Valid steps) (hsub : sel.Sublist steps) : Valid sel where
  named s hs := h.named s (hsub.subset hs)
  ruleNamed s hs := h.ruleNamed s (hsub.subset hs)
  names := h.names.sublist (hsub.map Step.name)
  ruleNames := h.ruleNames.sublist ((hsub.flatMap Step.rules).map Rule.name)
  priorities := h.priorities.sublist (hsub.map Step.priority)

theorem Valid.perm (h : Valid steps) (hperm : steps.Perm sel) : Valid sel where
  named s hs := h.named s (hperm.mem_iff.2 hs)
  ruleNamed s hs := h.ruleNamed s (hperm.mem_iff.2 hs)
  names := (hperm.map Step.name).nodup h.names
  ruleNames := ((hperm.flatMap_right Step.rules).map Rule.name).nodup h.ruleNames
  priorities := (hperm.map Step.priority).nodup h.priorities

theorem Valid.eq_of_name (h : Valid steps) {s t : Step} (hs : s ∈ steps) (ht : t ∈ steps)
    (hname : s.name = t.name) : s = t :=
  List.inj_on_of_nodup_map h.names hs ht hname

/-- A rule belongs to one step. -/
theorem Valid.eq_of_ruleName (h : Valid steps) {s t : Step} (hs : s ∈ steps) (ht : t ∈ steps)
    {k : String} (hk : k ∈ s.rules.map Rule.name) (hk' : k ∈ t.rules.map Rule.name) : s = t := by
  have hnames := h.ruleNames
  rw [List.map_flatMap, List.nodup_flatMap] at hnames
  by_contra hne
  have : Std.Symm (Function.onFun List.Disjoint fun s : Step => s.rules.map Rule.name) :=
    ⟨fun _ _ hdisjoint _ hk hk' => hdisjoint hk' hk⟩
  exact hnames.2.forall hs ht hne hk hk'

theorem Valid.nodup_rules (h : Valid steps) {s : Step} (hs : s ∈ steps) :
    (s.rules.map Rule.name).Nodup := by
  have hnames := h.ruleNames
  rw [List.map_flatMap, List.nodup_flatMap] at hnames
  exact hnames.1 s hs

/-! ## The checks -/

theorem blankName?_eq_none_iff : blankName? steps = none
    ↔ (∀ s ∈ steps, isBlankName s.name = false)
      ∧ ∀ s ∈ steps, ∀ r ∈ s.rules, isBlankName r.name = false := by
  induction steps with
  | nil => simp [blankName?]
  | cons s steps ih =>
    rw [blankName?, List.forall_mem_cons, List.forall_mem_cons]
    split
    · next hs => simp [hs]
    · next hs =>
      split
      · next hr =>
        obtain ⟨r, hmem, hblank⟩ := List.any_eq_true.1 hr
        refine iff_of_false (by simp) fun h => ?_
        rw [h.2.1 r hmem] at hblank
        cases hblank
      · next hr =>
        rw [ih]
        simp only [List.any_eq_true, not_exists, not_and, Bool.not_eq_true] at hs hr
        exact ⟨fun h => ⟨⟨hs, h.1⟩, hr, h.2⟩, fun h => ⟨h.1.2, h.2.2⟩⟩

/-- Names are used if none of them is used twice. -/
theorem useRuleNames_eq_ok_iff {rules : List Rule} (hused : used.Nodup) :
    useRuleNames used rules = .ok used'
      ↔ used' = (rules.map Rule.name).reverse ++ used ∧ used'.Nodup := by
  induction rules generalizing used with
  | nil =>
    rw [useRuleNames, Except.ok.injEq]
    exact ⟨fun h => ⟨h.symm, h ▸ hused⟩, fun h => h.1.symm⟩
  | cons r rules ih =>
    have hshift : ((r :: rules).map Rule.name).reverse ++ used
        = (rules.map Rule.name).reverse ++ (r.name :: used) := by simp
    rw [useRuleNames, hshift]
    split
    · next hmem =>
      refine iff_of_false (by simp) ?_
      rintro ⟨rfl, hnodup⟩
      exact (List.nodup_cons.1 (List.nodup_append.1 hnodup).2.1).1 (List.contains_iff_mem.1 hmem)
    · next hmem =>
      exact ih (List.nodup_cons.2 ⟨mt List.contains_iff_mem.2 hmem, hused⟩)

theorem sharedName?_eq_none_iff (hnames : names.Nodup) (hused : used.Nodup) :
    sharedName? names used steps = none
      ↔ ((steps.map Step.name).reverse ++ names).Nodup
        ∧ (((steps.flatMap Step.rules).map Rule.name).reverse ++ used).Nodup := by
  induction steps generalizing names used with
  | nil => simp [sharedName?, hnames, hused]
  | cons s steps ih =>
    have hshift : ((s :: steps).map Step.name).reverse ++ names
        = (steps.map Step.name).reverse ++ (s.name :: names) := by simp
    have hrules : (((s :: steps).flatMap Step.rules).map Rule.name).reverse ++ used
        = ((steps.flatMap Step.rules).map Rule.name).reverse
          ++ ((s.rules.map Rule.name).reverse ++ used) := by simp
    rw [sharedName?, hshift, hrules]
    split
    · next hmem =>
      refine iff_of_false (by simp) fun h => ?_
      exact (List.nodup_cons.1 (List.nodup_append.1 h.1).2.1).1 (List.contains_iff_mem.1 hmem)
    · next hmem =>
      split
      · next e herr =>
        refine iff_of_false (by simp) fun h => ?_
        rw [(useRuleNames_eq_ok_iff hused).2 ⟨rfl, (List.nodup_append.1 h.2).2.1⟩] at herr
        cases herr
      · next used' hok =>
        obtain ⟨rfl, hnodup⟩ := (useRuleNames_eq_ok_iff hused).1 hok
        exact ih (List.nodup_cons.2 ⟨mt List.contains_iff_mem.2 hmem, hnames⟩) hnodup

theorem sharedPriority?_eq_none_iff : sharedPriority? steps = none
    ↔ (steps.map Step.priority).IsChain (· ≠ ·) := by
  induction steps with
  | nil => simp [sharedPriority?]
  | cons s steps ih =>
    cases steps with
    | nil => simp [sharedPriority?]
    | cons t steps =>
      rw [sharedPriority?, List.map_cons, List.map_cons, List.isChain_cons_cons,
        ← List.map_cons, ← ih]
      split
      · next heq => simp [heq]
      · next hne => simp [hne]

/-- In ascending numbers only neighbours can be equal. -/
theorem pairwise_lt_of_isChain {ids : List Nat} (hle : ids.Pairwise (· ≤ ·))
    (hne : ids.IsChain (· ≠ ·)) : ids.Pairwise (· < ·) := by
  rw [← List.isChain_iff_pairwise]
  induction ids with
  | nil => exact .nil
  | cons m ids ih =>
    cases ids with
    | nil => exact .singleton m
    | cons n ids =>
      obtain ⟨hm, hle⟩ := List.pairwise_cons.1 hle
      obtain ⟨hmn, hne⟩ := List.isChain_cons_cons.1 hne
      exact .cons_cons (Nat.lt_of_le_of_ne (hm n List.mem_cons_self) hmn) (ih hle hne)

/-! ## Catalogs -/

/-- Some steps in ascending priority. -/
def byPriority (steps : List Step) : List Step :=
  steps.mergeSort fun s t => s.priority ≤ t.priority

theorem pairwise_byPriority (steps : List Step) :
    ((byPriority steps).map Step.priority).Pairwise (· ≤ ·) := by
  have hpairwise := (Ranking.nat.on Step.priority).pairwise_mergeSort steps
  exact List.pairwise_map.2 (hpairwise.imp of_decide_eq_true)

theorem valid_byPriority_iff : Valid (byPriority steps) ↔ blankName? (byPriority steps) = none
    ∧ sharedName? [] [] (byPriority steps) = none
    ∧ sharedPriority? (byPriority steps) = none := by
  rw [blankName?_eq_none_iff, sharedName?_eq_none_iff List.nodup_nil List.nodup_nil,
    sharedPriority?_eq_none_iff, List.append_nil, List.append_nil, List.nodup_reverse,
    List.nodup_reverse]
  constructor
  · intro h
    exact ⟨⟨h.named, h.ruleNamed⟩, ⟨h.names, h.ruleNames⟩, h.priorities.isChain⟩
  · rintro ⟨⟨hnamed, hruleNamed⟩, ⟨hnames, hruleNames⟩, hne⟩
    have hlt := pairwise_lt_of_isChain (pairwise_byPriority steps) hne
    exact ⟨hnamed, hruleNamed, hnames, hruleNames, hlt.imp Nat.ne_of_lt⟩

/-- The steps of a catalog are valid ones, sorted. -/
theorem ofSteps_eq_ok_iff : ofSteps given = .ok c ↔ Valid given ∧ c.steps = byPriority given := by
  have hperm : (byPriority given).Perm given := List.mergeSort_perm given _
  have hvalid : Valid given ↔ Valid (byPriority given) :=
    ⟨fun h => h.perm hperm.symm, fun h => h.perm hperm⟩
  have hsorted : (given.mergeSort fun s t => s.priority ≤ t.priority) = byPriority given := rfl
  rw [hvalid, valid_byPriority_iff, ofSteps, hsorted]
  cases blankName? (byPriority given) with
  | some e => simp
  | none =>
    cases sharedName? [] [] (byPriority given) with
    | some e => simp
    | none =>
      cases sharedPriority? (byPriority given) with
      | some e => simp
      | none =>
        obtain ⟨steps⟩ := c
        simp [eq_comm]

/-- Valid steps in ascending priority are a catalog as they are. -/
theorem ofSteps_of_ascending (h : Valid steps)
    (hle : steps.Pairwise fun s t => s.priority ≤ t.priority) : ofSteps steps = .ok ⟨steps⟩ := by
  refine ofSteps_eq_ok_iff.2 ⟨h, (List.mergeSort_of_pairwise ?_).symm⟩
  exact hle.imp fun hst => decide_eq_true hst

theorem valid_of_ofSteps (h : ofSteps given = .ok c) : Valid c.steps := by
  obtain ⟨hvalid, hsteps⟩ := ofSteps_eq_ok_iff.1 h
  exact hsteps ▸ hvalid.perm (List.mergeSort_perm given _).symm

theorem ascending_of_ofSteps (h : ofSteps given = .ok c) :
    (c.steps.map Step.priority).Pairwise (· < ·) := by
  have hne := (valid_of_ofSteps h).priorities
  rw [(ofSteps_eq_ok_iff.1 h).2] at hne ⊢
  exact pairwise_lt_of_isChain (pairwise_byPriority given) hne.isChain

/-! ## The order of the given steps -/

/-- Steps can be arranged in strictly ascending priority in one way at most. -/
theorem eq_of_perm_of_ascending (hperm : sel.Perm steps)
    (hsel : (sel.map Step.priority).Pairwise (· < ·))
    (hsteps : (steps.map Step.priority).Pairwise (· < ·)) : sel = steps := by
  have hasymm (s t : Step) (_ : s ∈ sel) (_ : t ∈ steps) (hst : s.priority < t.priority)
      (hts : t.priority < s.priority) : s = t := absurd hts (Nat.lt_asymm hst)
  exact hperm.eq_of_pairwise hasymm (List.pairwise_map.1 hsel) (List.pairwise_map.1 hsteps)

theorem ofSteps_eq_ok_iff_perm : ofSteps given = .ok c
    ↔ Valid given ∧ c.steps.Perm given ∧ (c.steps.map Step.priority).Pairwise (· < ·) := by
  constructor
  · intro h
    obtain ⟨hvalid, hsteps⟩ := ofSteps_eq_ok_iff.1 h
    exact ⟨hvalid, hsteps ▸ List.mergeSort_perm given _, ascending_of_ofSteps h⟩
  · rintro ⟨hvalid, hperm, hascending⟩
    have hsorted : ofSteps given = .ok ⟨byPriority given⟩ := ofSteps_eq_ok_iff.2 ⟨hvalid, rfl⟩
    have hsteps : c.steps = byPriority given :=
      eq_of_perm_of_ascending (hperm.trans (List.mergeSort_perm given _).symm) hascending
        (ascending_of_ofSteps hsorted)
    exact ofSteps_eq_ok_iff.2 ⟨hvalid, hsteps⟩

theorem exists_ofSteps_iff : (∃ c, ofSteps given = .ok c) ↔ Valid given where
  mp := fun ⟨_, h⟩ => (ofSteps_eq_ok_iff.1 h).1
  mpr h := ⟨⟨byPriority given⟩, ofSteps_eq_ok_iff.2 ⟨h, rfl⟩⟩

/-- The same steps in another order are the same catalog. -/
theorem ofSteps_eq_ok_of_perm (hperm : given.Perm steps) (h : ofSteps given = .ok c) :
    ofSteps steps = .ok c := by
  obtain ⟨hvalid, hsteps, hascending⟩ := ofSteps_eq_ok_iff_perm.1 h
  exact ofSteps_eq_ok_iff_perm.2 ⟨hvalid.perm hperm, hsteps.trans hperm, hascending⟩

/-- Steps are a catalog exactly if they are valid.  The catalog then arranges them in strictly
ascending priority and leaves their rules as they are, and the same steps given in another order are
the same catalog, or none either. -/
theorem ofSteps_forgets_order (given : List Step) :
    ((∃ c, ofSteps given = .ok c) ↔ Valid given)
      ∧ (∀ c, ofSteps given = .ok c
        ↔ Valid given ∧ c.steps.Perm given ∧ (c.steps.map Step.priority).Pairwise (· < ·))
      ∧ ∀ steps, given.Perm steps →
        (∃ c, ofSteps given = .ok c ∧ ofSteps steps = .ok c)
          ∨ ∃ e e', ofSteps given = .error e ∧ ofSteps steps = .error e' := by
  refine ⟨exists_ofSteps_iff, fun c => ofSteps_eq_ok_iff_perm, fun steps hperm => ?_⟩
  cases hgiven : ofSteps given with
  | ok c => exact .inl ⟨c, rfl, ofSteps_eq_ok_of_perm hperm hgiven⟩
  | error e =>
    cases hsteps : ofSteps steps with
    | ok c =>
      rw [ofSteps_eq_ok_of_perm hperm.symm hsteps] at hgiven
      cases hgiven
    | error e' => exact .inr ⟨e, e', rfl, rfl⟩

/-- A rule of a given name. -/
def sampleRule (name : String) : Rule where
  name := name
  pattern := ⟨"x", .take (.single 'x'), []⟩
  transform := .literal "y"

/-- A step with one rule. -/
def late : Step := ⟨"late", "", 9, [sampleRule "a"]⟩

/-- A step with two rules, which are not in the order of their names. -/
def early : Step := ⟨"early", "", 1, [sampleRule "c", sampleRule "b"]⟩

/-- Two steps are the same catalog in both orders. -/
theorem ofSteps_forgets_order_pair : ofSteps [late, early] = .ok ⟨[early, late]⟩
    ∧ ofSteps [early, late] = .ok ⟨[early, late]⟩ := by
  have hvalid : Valid [late, early] := ⟨by decide, by decide, by decide, by decide, by decide⟩
  have hswap : [late, early].Perm [early, late] := .swap ..
  obtain ⟨-, hok, hforgets⟩ := ofSteps_forgets_order [late, early]
  have hgiven : ofSteps [late, early] = .ok ⟨[early, late]⟩ :=
    (hok _).2 ⟨hvalid, hswap.symm, by decide⟩
  rcases hforgets _ hswap with ⟨c, hc, hother⟩ | ⟨e, -, hrefused, -⟩
  · rw [hgiven] at hc
    obtain rfl := Except.ok.inj hc
    exact ⟨hgiven, hother⟩
  · rw [hgiven] at hrefused
    cases hrefused

end SourceMend.Catalog
