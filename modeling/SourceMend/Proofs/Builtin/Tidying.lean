import SourceMend.Proofs.Builtin.Idempotence

/-!
# Tidying up a text

The first built-in step deletes blanks and semicolons and writes an exclamation mark for
the question mark of an optional assignment.  It leaves no blank and no two semicolons at
the end of a line, and every other character stays where it was among the others
(`basicSyntax_tidies`).

A text is *thinned* by deleting some characters of a kind (`Thinned`), and *asserted* by
replacing some optional assignments that do not overlap (`Asserted`).
-/

namespace SourceMend.Catalog.Builtin

open Rule

variable {cs : List Char} {s t u v out : Text} {keep : Char → Bool}

/-! ## Deleting characters -/

/-- That a text comes from another one by deleting some characters, all of them in `cs`. -/
inductive Thinned (cs : List Char) : Text → Text → Prop where
  | nil : Thinned cs [] []
  /-- A character stays. -/
  | keep (c : Char) {s t : Text} : Thinned cs s t → Thinned cs (c :: s) (c :: t)
  /-- A character is deleted. -/
  | drop {c : Char} {s t : Text} : c ∈ cs → Thinned cs s t → Thinned cs (c :: s) t

namespace Thinned

theorem refl (s : Text) : Thinned cs s s := by
  induction s with
  | nil => exact .nil
  | cons c s ih => exact .keep c ih

theorem append (h : Thinned cs s t) (h' : Thinned cs u v) : Thinned cs (s ++ u) (t ++ v) := by
  induction h with
  | nil => exact h'
  | keep c _ ih => exact .keep c ih
  | drop hc _ ih => exact .drop hc ih

theorem trans (h : Thinned cs s t) (h' : Thinned cs t u) : Thinned cs s u := by
  induction h generalizing u with
  | nil => exact h'
  | keep c _ ih =>
    cases h' with
    | keep _ h' => exact .keep c (ih h')
    | drop hc h' => exact .drop hc (ih h')
  | drop hc _ ih => exact .drop hc (ih h')

theorem of_subset (h : s ⊆ cs) : Thinned cs s [] := by
  induction s with
  | nil => exact .nil
  | cons c s ih =>
    obtain ⟨hc, hs⟩ := List.cons_subset.1 h
    exact .drop hc (ih hs)

/-- The characters that are not deleted stay in their order. -/
theorem filter_eq (h : Thinned cs s t) (hkeep : ∀ c ∈ cs, keep c = false) :
    t.filter keep = s.filter keep := by
  induction h with
  | nil => rfl
  | keep c _ ih => rw [List.filter_cons, List.filter_cons, ih]
  | drop hc _ ih => rw [ih, List.filter_cons_of_neg (by simp [hkeep _ hc])]

end Thinned

/-! ## Asserting members -/

/-- That a text comes from another one by writing an exclamation mark for the question mark of some
optional assignments. -/
inductive Asserted : Text → Text → Prop where
  | nil : Asserted [] []
  /-- A character stays. -/
  | keep (c : Char) {s t : Text} : Asserted s t → Asserted (c :: s) (c :: t)
  /-- An optional assignment becomes an assignment to a member of what is asserted to be there. -/
  | replace {a b w mid s t : Text} {c : Char} : OptionalAssignment a b w c mid → Asserted s t →
      Asserted (mid ++ s) (asserted a b w c ++ t)

namespace Asserted

theorem refl (s : Text) : Asserted s s := by
  induction s with
  | nil => exact .nil
  | cons c s ih => exact .keep c ih

theorem append (h : Asserted s t) (h' : Asserted u v) : Asserted (s ++ u) (t ++ v) := by
  induction h with
  | nil => exact h'
  | keep c _ ih => exact .keep c ih
  | replace hmid _ ih =>
    rw [List.append_assoc, List.append_assoc]
    exact .replace hmid ih

/-- Apart from question marks and exclamation marks all characters stay. -/
theorem filter_eq (h : Asserted s t) (hkeep : ∀ c ∈ ['?', '!'], keep c = false) :
    t.filter keep = s.filter keep := by
  induction h with
  | nil => rfl
  | keep c _ ih => rw [List.filter_cons, List.filter_cons, ih]
  | replace hmid _ ih =>
    have hquestion : keep '?' = false := hkeep '?' (by decide)
    have hbang : keep '!' = false := hkeep '!' (by decide)
    rw [hmid.eq, asserted, List.filter_append, List.filter_append, ih]
    simp only [List.filter_append, List.filter_cons, hquestion, hbang]
    rfl

end Asserted

/-! ## The ends of lines -/

/-- Whether a text begins with the end of a line, or is empty. -/
def AtLineEnd (v : Text) : Prop := ∀ e ∈ v.head?, e ∈ ['\n', '\r']

theorem AtLineEnd.exists_cons (h : AtLineEnd v) :
    ∃ e ∈ ['\n', '\r'], ∃ r, v ++ ['\n'] = e :: r := by
  cases v with
  | nil => exact ⟨'\n', by decide, [], rfl⟩
  | cons e v => exact ⟨e, h e rfl, v ++ ['\n'], rfl⟩

/-- Texts without blanks at line ends have none before a line end. -/
theorem not_blank_of_free {c : Char} (h : Free Blanked (u ++ c :: v ++ ['\n'])) (hv : AtLineEnd v) :
    c ∉ [' ', '\t'] := by
  intro hc
  obtain ⟨e, he, r, hr⟩ := hv.exists_cons
  refine h [c, e] ⟨[c], e, by simp, ?_, he, rfl⟩ ⟨u, r, ?_⟩
  · exact List.forall_mem_singleton.2 (contains_lineBlanks.2 hc)
  · simp [hr]

/-- Texts without repeated semicolons at line ends have no two before a line end. -/
theorem not_atLineEnd_of_free (h : Free Doubled (u ++ ';' :: ';' :: v ++ ['\n'])) :
    ¬AtLineEnd v := by
  intro hv
  obtain ⟨e, he, r, hr⟩ := hv.exists_cons
  refine h [';', ';', e] ⟨[';'], [], [';', ';'], e, ⟨by simp, by simp, ?_, rfl⟩, he, rfl⟩ ⟨u, r, ?_⟩
  · exact List.forall_mem_nil _
  · simp [hr]

/-! ## The first step -/

/-- Blanks and semicolons. -/
def removable : List Char := [' ', '\t', ';']

theorem removable_of_lineBlanks (h : All lineBlanks s) : s ⊆ removable := by
  have hsub : [' ', '\t'] ⊆ removable := by decide
  exact fun c hc => hsub (contains_lineBlanks.1 (h c hc))

theorem thinned_trailingBlanks {fixes : Nat} (h : Rewrites trailingBlanks [] s out fixes) :
    Thinned removable s out := by
  refine h.relates Thinned.refl Thinned.append fun hreplaces => ?_
  obtain ⟨-, hmid, -, rfl⟩ := replaces_trailingBlanks hreplaces
  exact .of_subset (removable_of_lineBlanks hmid)

theorem thinned_semicolons {fixes : Nat} (h : Rewrites semicolons [] s out fixes) :
    Thinned removable s out := by
  refine h.relates Thinned.refl Thinned.append fun hreplaces => ?_
  obtain ⟨⟨x, w, -, hx, hw, rfl⟩, -, rfl⟩ := replaces_semicolons hreplaces
  have hx : x ⊆ removable := fun c hc => by
    rw [hx c hc]
    decide
  exact .keep ';' (.of_subset (List.append_subset.2 ⟨hx, removable_of_lineBlanks hw⟩))

theorem asserted_optionalAssignment {fixes : Nat} (h : Rewrites optionalAssignment [] s out fixes) :
    Asserted s out := by
  refine h.relates Asserted.refl Asserted.append fun hreplaces => ?_
  obtain ⟨a, b, w, c, hmid, rfl⟩ := replaces_optionalAssignment hreplaces
  simpa [asserted] using Asserted.replace hmid .nil

/-- The first step deletes blanks and semicolons, and then it replaces optional assignments. -/
theorem edited_basicSyntaxStep (on : Subject) (s : Text) : ∃ kept, Thinned removable s kept
    ∧ Asserted kept (basicSyntaxStep.apply on s).text := by
  obtain ⟨htrailing, hsemicolons, hoptional⟩ := regular_basicSyntax
  have htext : (basicSyntaxStep.apply on s).text
      = optionalAssignment.next on (semicolons.next on (trailingBlanks.next on s)) :=
    Step.text_foldl basicSyntaxStep.rules
  -- the rules of this step are for every file
  have hall : trailingBlanks.accepts on = true ∧ semicolons.accepts on = true
      ∧ optionalAssignment.accepts on = true := ⟨rfl, rfl, rfl⟩
  obtain ⟨_, hfirst⟩ := htrailing.rewrites hall.1 s
  obtain ⟨_, hsecond⟩ := hsemicolons.rewrites hall.2.1 (trailingBlanks.next on s)
  obtain ⟨_, hthird⟩ :=
    hoptional.rewrites hall.2.2 (semicolons.next on (trailingBlanks.next on s))
  rw [htext]
  exact ⟨_, (thinned_trailingBlanks hfirst).trans (thinned_semicolons hsecond),
    asserted_optionalAssignment hthird⟩

/-- What becomes of a text when it is tidied up. -/
structure Tidied (s out : Text) : Prop where
  /-- No blank is left before the end of a line. -/
  blanks : ∀ u c v, out = u ++ c :: v → AtLineEnd v → c ∉ [' ', '\t']
  /-- No two semicolons are left before the end of a line. -/
  semicolons : ∀ u v, out = u ++ ';' :: ';' :: v → ¬AtLineEnd v
  /-- Blanks and semicolons are deleted, and then optional assignments are replaced. -/
  edited : ∃ kept, Thinned removable s kept ∧ Asserted kept out
  /-- All other characters stay in their order, line ends among them. -/
  others : ∀ keep : Char → Bool, (∀ c ∈ removable ++ ['?', '!'], keep c = false) →
    out.filter keep = s.filter keep

/-- The first of the built-in steps tidies up every text. -/
theorem basicSyntax_tidies : ∃ step later, builtin = .ok ⟨step :: later⟩
    ∧ step.name = "Basic Syntax"
    ∧ ∀ (on : Subject) (s : Text), Tidied s (step.apply on s).text := by
  refine ⟨basicSyntaxStep, laterSteps, builtin_eq, rfl, fun on s => ?_⟩
  have hsub : ((checks fun _ => False).take 3).Sublist (checks fun _ => False) :=
    List.take_sublist 3 _
  have hpassed : ∀ c ∈ (checks fun _ => False).take 3, c.rule.accepts on = true →
      c.Passed (basicSyntaxStep.apply on s).text := passed_apply hsub rfl on s
  obtain ⟨hblanked, hpassed⟩ := List.forall_mem_cons.1 hpassed
  obtain ⟨hdoubled, -⟩ := List.forall_mem_cons.1 hpassed
  obtain ⟨kept, hthinned, hasserted⟩ := edited_basicSyntaxStep on s
  generalize (basicSyntaxStep.apply on s).text = out at hblanked hdoubled hasserted ⊢
  refine ⟨?_, ?_, ⟨kept, hthinned, hasserted⟩, fun keep hkeep => ?_⟩
  · rintro u c v rfl
    exact not_blank_of_free (hblanked rfl)
  · rintro u v rfl
    exact not_atLineEnd_of_free (hdoubled rfl)
  · obtain ⟨hremovable, hmarks⟩ := List.forall_mem_append.1 hkeep
    exact (hasserted.filter_eq hmarks).trans (hthinned.filter_eq hremovable)

example : (basicSyntaxStep.apply ⟨⟨"a.ts"⟩, ⟨"a.ts"⟩, none⟩ "a?.b = c;; \r\nd \t".toList).text
    = "a!.b = c;\r\nd".toList := by decide +kernel

end SourceMend.Catalog.Builtin
