import SourceMend.Diff.Slide

/-!
# Scripts do what they are built for

The script between two lists starts from the first and ends with the second
(`turns_between`), wherever the lists are cut.  Settling a script changes
neither of its sides (`turns_settle`).  Between equal lists everything is kept
(`between_self`), and what is kept needs no settling (`settle_keeping`).
-/

namespace SourceMend.Diff

variable {α : Type}

/-- Whether a script turns one list into another. -/
structure Script.Turns (s : Script α) (a b : List α) : Prop where
  /-- It starts from the first. -/
  old : s.old = a
  /-- It ends with the second. -/
  new : s.new = b

namespace Script

@[simp] theorem old_nil : Script.old ([] : Script α) = [] := rfl

@[simp] theorem new_nil : Script.new ([] : Script α) = [] := rfl

@[simp] theorem old_cons (e : Edit α) (s : Script α) : Script.old (e :: s) = e.old ++ s.old :=
  List.flatMap_cons

@[simp] theorem new_cons (e : Edit α) (s : Script α) : Script.new (e :: s) = e.new ++ s.new :=
  List.flatMap_cons

@[simp] theorem old_append (s t : Script α) : Script.old (s ++ t) = s.old ++ t.old :=
  List.flatMap_append

@[simp] theorem new_append (s t : Script α) : Script.new (s ++ t) = s.new ++ t.new :=
  List.flatMap_append

@[simp] theorem old_keeping (xs : List α) : (keeping xs).old = xs := by
  cases xs <;> simp [keeping, Edit.old]

@[simp] theorem new_keeping (xs : List α) : (keeping xs).new = xs := by
  cases xs <;> simp [keeping, Edit.new]

@[simp] theorem reverse_keeping (xs : List α) : (keeping xs).reverse = keeping xs := by
  cases xs <;> simp [keeping]

theorem Turns.append {s t : Script α} {a b c d : List α} (h : s.Turns a b) (h' : t.Turns c d) :
    Turns (s ++ t) (a ++ c) (b ++ d) :=
  ⟨by simp [h.old, h'.old], by simp [h.new, h'.new]⟩

theorem turns_keeping (xs : List α) : (keeping xs).Turns xs xs := ⟨by simp, by simp⟩

theorem turns_replace (a b : List α) : Turns [.remove a, .add b] a b :=
  ⟨by simp [Edit.old], by simp [Edit.new]⟩

end Script

namespace Cursor

/-- What a move may not change. -/
def Same (c d : Cursor α) : Prop := c.script.old = d.script.old ∧ c.script.new = d.script.new

theorem Same.trans {c d e : Cursor α} (h : c.Same d) (h' : d.Same e) : c.Same e :=
  ⟨h.1.trans h'.1, h.2.trans h'.2⟩

theorem old_keepBefore (xs : List α) (s : Script α) :
    (keepBefore xs s).old = xs ++ s.old := by
  unfold keepBefore
  split <;> simp [Edit.old]

theorem new_keepBefore (xs : List α) (s : Script α) :
    (keepBefore xs s).new = xs ++ s.new := by
  unfold keepBefore
  split <;> simp [Edit.new]

theorem old_reverse_keepBehind (xs : List α) (s : Script α) :
    Script.old (keepBehind xs s).reverse = Script.old s.reverse ++ xs := by
  unfold keepBehind
  split <;> simp [Edit.old]

theorem new_reverse_keepBehind (xs : List α) (s : Script α) :
    Script.new (keepBehind xs s).reverse = Script.new s.reverse ++ xs := by
  unfold keepBehind
  split <;> simp [Edit.new]

theorem same_exhaust {move? : Cursor α → Option (Cursor α)}
    (hmove : ∀ {c d}, move? c = some d → c.Same d) (fuel : Nat) (c : Cursor α) :
    c.Same (exhaust move? fuel c) := by
  induction fuel generalizing c with
  | zero => exact ⟨rfl, rfl⟩
  | succ fuel ih =>
    simp only [exhaust]
    split
    · next d hd => exact (hmove hd).trans (ih d)
    · exact ⟨rfl, rfl⟩

end Cursor

variable [DecidableEq α]

/-! ## Building -/

theorem commonStart_eq (a b : List α) :
    a = (commonStart a b).1 ++ (commonStart a b).2.1
      ∧ b = (commonStart a b).1 ++ (commonStart a b).2.2 := by
  induction a generalizing b with
  | nil => simp [commonStart]
  | cons x a ih =>
    cases b with
    | nil => simp [commonStart]
    | cons y b =>
      simp only [commonStart]
      split
      · next hxy =>
        subst hxy
        exact ⟨congrArg (x :: ·) (ih b).1, congrArg (x :: ·) (ih b).2⟩
      · exact ⟨rfl, rfl⟩

theorem commonEnd_eq (a b : List α) :
    a = (commonEnd a b).1 ++ (commonEnd a b).2.2
      ∧ b = (commonEnd a b).2.1 ++ (commonEnd a b).2.2 := by
  obtain ⟨ha, hb⟩ := commonStart_eq a.reverse b.reverse
  have ha := congrArg List.reverse ha
  have hb := congrArg List.reverse hb
  rw [List.reverse_reverse, List.reverse_append] at ha hb
  exact ⟨ha, hb⟩

namespace Script

theorem turns_build (fuel : Nat) (a b : List α) : (build fuel a b).Turns a b := by
  induction fuel generalizing a b with
  | zero => exact turns_replace a b
  | succ fuel ih =>
    obtain ⟨ha, hb⟩ := commonStart_eq a b
    obtain ⟨ha', hb'⟩ := commonEnd_eq (commonStart a b).2.1 (commonStart a b).2.2
    have hends {inner : Script α} (h : inner.Turns (commonEnd (commonStart a b).2.1
        (commonStart a b).2.2).1 (commonEnd (commonStart a b).2.1 (commonStart a b).2.2).2.1) :
        Turns (keeping (commonStart a b).1 ++ inner ++ keeping
          (commonEnd (commonStart a b).2.1 (commonStart a b).2.2).2.2) a b := by
      have h := ((turns_keeping (commonStart a b).1).append h).append (turns_keeping
        (commonEnd (commonStart a b).2.1 (commonStart a b).2.2).2.2)
      rwa [List.append_assoc (commonStart a b).1, List.append_assoc (commonStart a b).1, ← ha',
        ← ha, ← hb', ← hb] at h
    simp only [build]
    refine hends ?_
    split
    · next h h' => exact ⟨h.symm, h'.symm⟩
    · next h _ => exact ⟨by simp [Edit.old], by simp [Edit.new, h]⟩
    · next h _ => exact ⟨by simp [Edit.old, h], by simp [Edit.new]⟩
    · split
      · next x y _ =>
        have h {u v : List α} := (ih (u.take x) (v.take y)).append (ih (u.drop x) (v.drop y))
        simp only [List.take_append_drop] at h
        exact h
      · exact turns_replace _ _

theorem turns_between (a b : List α) : (between a b).Turns a b := turns_build _ a b

theorem between_self (a : List α) : between a a = keeping a := by
  have hstart : commonStart a a = (a, [], []) := by
    induction a with
    | nil => rfl
    | cons x a ih => simp [commonStart, ih]
  simp [between, build, hstart, commonEnd, commonStart, keeping]

end Script

/-! ## Settling -/

namespace Cursor

theorem same_up {c d : Cursor α} (h : c.up? = some d) : c.Same d := by
  obtain ⟨before, edit, after⟩ := c
  simp only [up?] at h
  split at h
  · next ks before xs =>
    obtain ⟨hks, hxs⟩ := commonEnd_eq ks xs
    split at h
    · cases h
    · cases h
      constructor
      · simp [script, Edit.old, old_keepBefore, ← List.append_assoc (commonEnd ks xs).1, ← hks]
      · simp [script, Edit.new, new_keepBefore, ← List.append_assoc (commonEnd ks xs).1, ← hks,
          ← List.append_assoc (commonEnd ks xs).2.1, ← hxs]
  · cases h; constructor <;> simp [script, Edit.old, Edit.new]
  · cases h; constructor <;> simp [script, Edit.old, Edit.new]
  · cases h; constructor <;> simp [script, Edit.old, Edit.new]
  · cases h; constructor <;> simp [script, Edit.old, Edit.new]
  · cases h

theorem same_down {c d : Cursor α} (h : c.down? = some d) : c.Same d := by
  obtain ⟨before, edit, after⟩ := c
  simp only [down?] at h
  split at h
  · next xs ks after =>
    obtain ⟨hks, hxs⟩ := commonStart_eq ks xs
    split at h
    · cases h
    · cases h
      constructor
      · simp [script, Edit.old, old_reverse_keepBehind, ← List.append_assoc (commonStart ks xs).1,
          ← hks]
      · simp [script, Edit.new, new_reverse_keepBehind, ← List.append_assoc (commonStart ks xs).1,
          ← hks, ← hxs]
  · cases h; constructor <;> simp [script, Edit.old, Edit.new]
  · cases h; constructor <;> simp [script, Edit.old, Edit.new]
  · cases h; constructor <;> simp [script, Edit.old, Edit.new]
  · cases h; constructor <;> simp [script, Edit.old, Edit.new]
  · cases h

theorem same_settle (c : Cursor α) : c.Same c.settle :=
  (same_exhaust same_up _ c).trans (same_exhaust same_down _ _)

end Cursor

namespace Script

theorem turns_settleWhere {a b : List α} (moves : Edit α → Bool) (fuel : Nat)
    (before after : Script α) (h : Turns (before.reverse ++ after) a b) :
    (settleWhere moves fuel before after).Turns a b := by
  induction fuel generalizing before after with
  | zero => exact h
  | succ fuel ih =>
    cases after with
    | nil => simpa [settleWhere] using h
    | cons e after =>
      simp only [settleWhere]
      split
      · have hsame := Cursor.same_settle ⟨before, e, after⟩
        refine ih _ _ ?_
        rw [List.reverse_cons, List.append_assoc, List.singleton_append]
        exact ⟨hsame.1.symm.trans h.old, hsame.2.symm.trans h.new⟩
      · exact ih _ _ (by simpa using h)

/-- A script of which nothing is to be settled stays as it is. -/
theorem settleWhere_of_not_moves {moves : Edit α → Bool} (fuel : Nat) (before : Script α)
    {after : Script α} (h : ∀ e ∈ after, moves e = false) :
    settleWhere moves fuel before after = before.reverse ++ after := by
  induction fuel generalizing before after with
  | zero => rfl
  | succ fuel ih =>
    cases after with
    | nil => simp [settleWhere]
    | cons e after =>
      obtain ⟨he, hafter⟩ := List.forall_mem_cons.1 h
      simp [settleWhere, he, ih (e :: before) hafter]

theorem settle_keeping (a : List α) : (keeping a).settle = keeping a := by
  have hmoves (moves : Edit α → Bool) (hkeep : moves (.keep a) = false) :
      ∀ e ∈ keeping a, moves e = false := by
    cases a <;> simp [keeping, hkeep]
  simp only [settle, settleWhere_of_not_moves _ [] (hmoves removes rfl), List.reverse_nil,
    List.nil_append, settleWhere_of_not_moves _ [] (hmoves adds rfl)]

theorem turns_settle {s : Script α} {a b : List α} (h : s.Turns a b) : s.settle.Turns a b :=
  turns_settleWhere adds _ [] _ (turns_settleWhere removes _ [] s h)

end Script
end SourceMend.Diff
