import SourceMend.Proofs.Rule.Rewriting
import SourceMend.Proofs.Text.Infix

/-!
# What a rule keeps out of a text

`Rewrites.run` carries an invariant through the matches of a rule.  From it come the two ways in
which a text stays without the parts of some kind: no replacement makes such a part
(`Rewrites.free`), or the parts are what the rule looks for (`Rewrites.clears`).
-/

namespace SourceMend.Rule

open Pattern

variable {r : Rule} {L : Text → Prop} {pre tail out u : Text} {fixes : Nat}

/-- What holds between two matches, of the text before and after the rule, holds at the end. -/
theorem Rewrites.run {I : Text → Text → Text → Prop} (h : Rewrites r pre tail out fixes)
    (hgap : ∀ {pre u gap tail}, Barren r.pattern.node pre gap tail → I pre u (gap ++ tail) →
      I (pre ++ gap) (u ++ gap) tail)
    (hedit : ∀ {pre u mid post t}, r.Replaces pre mid post t → I pre u (mid ++ post) →
      I (pre ++ mid) (u ++ t) post) (hI : I pre u tail) :
    ∃ pre' u' rest, I pre' u' rest ∧ u ++ out = u' ++ rest
      ∧ ∀ a b, rest = a ++ b → ¬ Starts r.pattern.node (pre' ++ a) b := by
  induction h generalizing u with
  | nothing h => exact ⟨_, u, _, hI, rfl, h⟩
  | @after pre gap mid post t out fixes hbarren hreplaces _ ih =>
    obtain ⟨pre', u', rest, hI', hout, hnone⟩ := ih (hedit hreplaces (hgap hbarren hI))
    exact ⟨pre', u', rest, hI', by rw [← hout]; simp, hnone⟩

/-- Whether no text of `L` is part of a text. -/
def Free (L : Text → Prop) (x : Text) : Prop := ∀ o, L o → ¬ o <:+: x

theorem Free.suffix {x y : Text} (h : Free L y) (hx : x <:+ y) : Free L x :=
  fun o ho hpart => h o ho (hpart.trans hx.isInfix)

/-- Whether a replacement makes no text of `L`. -/
def Keeps (L : Text → Prop) (mid t : Text) : Prop :=
  ∀ u v, Free L (u ++ (mid ++ v)) → Free L (u ++ (t ++ v))

/-- Whether a rule makes no text of `L`. -/
abbrev Avoids (r : Rule) (L : Text → Prop) : Prop :=
  ∀ {pre mid post t}, r.Replaces pre mid post t → Keeps L mid t

/-- A replacement makes no text of `L` if such texts come from texts of `L`. -/
theorem keeps_of_infix {mid t : Text} (h : ∀ {u v o}, L o → o <:+: u ++ (t ++ v) →
    ∃ o', L o' ∧ o' <:+: u ++ (mid ++ v)) : Keeps L mid t := by
  intro u v hfree o ho hpart
  obtain ⟨o', ho', hpart'⟩ := h ho hpart
  exact hfree o' ho' hpart'

theorem Rewrites.free (h : Rewrites r pre tail out fixes) (hkeeps : r.Avoids L) {v : Text}
    (hfree : Free L (u ++ (tail ++ v))) : Free L (u ++ (out ++ v)) := by
  obtain ⟨_, u', rest, hfree', hout, -⟩ := h.run (I := fun _ u tail => Free L (u ++ (tail ++ v)))
    (fun _ h => by simpa using h)
    (fun hreplaces h => by simpa using hkeeps hreplaces _ _ (by simpa using h)) hfree
  rw [← List.append_assoc, hout]
  simpa using hfree'

/-! ## What the rule looks for -/

/-- Whether the texts of `L` are what a rule matches, wherever they stand. -/
def Finds (r : Rule) (L : Text → Prop) : Prop :=
  ∀ {pre mid post}, (∃ gs, NodeSpans r.pattern.node pre mid post gs) ↔ L mid

/-- Whether `Occ` holds at no position in `u`, if `tail` comes after it. -/
def NoneFrom (Occ : Text → Text → Prop) (u tail : Text) : Prop :=
  ∀ a b, u = a ++ b → b ≠ [] → ¬ Occ a (b ++ tail)

theorem noneFrom_nil (Occ : Text → Text → Prop) (tail : Text) : NoneFrom Occ [] tail := by
  intro a b hab hb
  exact absurd (List.append_eq_nil_iff.1 hab.symm).2 hb

theorem NoneFrom.append {Occ : Text → Text → Prop} {gap : Text} (hu : NoneFrom Occ u (gap ++ tail))
    (hgap : ∀ a b, gap = a ++ b → b ≠ [] → ¬ Occ (u ++ a) (b ++ tail)) :
    NoneFrom Occ (u ++ gap) tail := by
  intro a b hab hb
  rcases List.append_eq_append_iff.1 hab with ⟨c, rfl, rfl⟩ | ⟨c, rfl, rfl⟩
  · exact hgap c b rfl hb
  · by_cases hc : c = []
    · subst hc
      simpa using hgap [] gap rfl hb
    · simpa using hu a c rfl hc

/-- A rule leaves none of what it looks for, if no replacement makes any of it.  What it looks for
may depend on what stands before it, and what a replacement makes on what comes after it, as far as
`Agree` keeps track of that. -/
theorem Rewrites.clears (Agree : Text → Text → Text → Prop) (Occ : Text → Text → Prop) {s : Text}
    (h : Rewrites r [] s out fixes)
    (hgap : ∀ {pre u gap tail}, Agree pre u (gap ++ tail) → Agree (pre ++ gap) (u ++ gap) tail)
    (hocc : ∀ {pre u tail}, Agree pre u tail → Occ u tail → Starts r.pattern.node pre tail)
    (hstep : ∀ {pre u mid post t}, r.Replaces pre mid post t → Agree pre u (mid ++ post) →
      NoneFrom Occ u (mid ++ post) → Agree (pre ++ mid) (u ++ t) post ∧ NoneFrom Occ (u ++ t) post)
    (hstart : Agree [] [] s) {a b : Text} (hout : out = a ++ b) : ¬ Occ a b := by
  obtain ⟨pre', u', rest, ⟨hagree, hfree⟩, hout', hnone⟩ := h.run
    (I := fun pre u tail => Agree pre u tail ∧ NoneFrom Occ u tail) (u := [])
    (fun {pre u gap tail} hbarren hI => ⟨hgap hI.1, hI.2.append fun a b hab hb h => by
      subst hab
      rw [List.append_assoc] at hI
      exact hbarren a b rfl hb (hocc (hgap hI.1) h)⟩)
    (fun hreplaces hI => hstep hreplaces hI.1 hI.2) ⟨hstart, noneFrom_nil Occ s⟩
  intro ho
  obtain hab : a ++ b = u' ++ rest := by rw [← hout, ← hout', List.nil_append]
  rcases List.append_eq_append_iff.1 hab with ⟨c, rfl, rfl⟩ | ⟨c, rfl, rfl⟩
  · by_cases hc : c = []
    · subst hc
      exact hnone [] rest rfl (hocc (hgap hagree) (by simpa using ho))
    · exact hfree a c rfl hc ho
  · exact hnone c b rfl (hocc (hgap hagree) ho)

/-- Whether a text of `L` begins at a position. -/
abbrev Begins (L : Text → Prop) (_ tail : Text) : Prop := ∃ o, L o ∧ o <+: tail

theorem NoneFrom.free (h : NoneFrom (Begins L) u tail) (hL : ∀ {o}, L o → o ≠ []) : Free L u := by
  rintro o ho ⟨a, b, rfl⟩
  refine h a (o ++ b) (by simp) (by simp [hL ho]) ⟨o, ho, ?_⟩
  rw [List.append_assoc]
  exact List.prefix_append o _

/-- The same for texts that end with a character that they have nowhere else.  If a replacement ends
with it too, no such text goes on after the replacement. -/
theorem Rewrites.clears_of_last {s : Text} {z : Char} (h : Rewrites r [] s out fixes)
    (hfinds : r.Finds L) (hlast : ∀ {o}, L o → o ≠ [] ∧ z ∉ o.dropLast)
    (hstep : ∀ {pre mid post t}, r.Replaces pre mid post t →
      (∃ x, t = x ++ [z]) ∧ ∀ {u}, Free L u → Free L (u ++ t)) : Free L out := by
  have hocc {pre u tail : Text} (h : Begins L u tail) : Starts r.pattern.node pre tail := by
    obtain ⟨o, ho, post, rfl⟩ := h
    obtain ⟨gs, hspans⟩ := hfinds.2 ho
    exact ⟨o, post, gs, rfl, hspans⟩
  have hnone {a b : Text} (hout : out = a ++ b) : ¬ Begins L a b := by
    refine h.clears (fun _ _ _ => True) (Begins L) id (fun _ => hocc)
      (fun {pre u mid post t} hreplaces _ hnone => ⟨trivial, ?_⟩) trivial hout
    obtain ⟨⟨x, rfl⟩, hfree⟩ := hstep hreplaces
    rintro a b hab hb ⟨o, ho, hpre⟩
    obtain ⟨b, rfl⟩ : ∃ y, b = y ++ [z] := by
      rcases List.eq_nil_or_concat b with rfl | ⟨y, d, rfl⟩
      · exact absurd rfl hb
      · rw [← List.append_assoc, List.concat_eq_append, ← List.append_assoc] at hab
        exact ⟨y, by rw [List.concat_eq_append, (List.append_inj' hab rfl).2]⟩
    have hinside : o <+: b ++ [z] := Text.prefix_of_last (hlast ho).2 (by simpa using hpre)
    refine hfree (hnone.free fun h => (hlast h).1) o ho ?_
    rw [hab]
    exact hinside.isInfix.trans (List.suffix_append a _).isInfix
  rintro o ho ⟨a, b, hab⟩
  exact hnone (by rw [← hab, List.append_assoc]) ⟨o, ho, List.prefix_append o b⟩

end SourceMend.Rule
