import SourceMend.Proofs.Pattern.Succession
import SourceMend.Rule

/-!
# What a rule does to a text

`Rewrites` describes the text that a rule leaves, one match after another: what
lies between the matches is kept, and each match becomes its replacement.
`rewrites_of_apply` is this for every rule whose matches have a character.
-/

namespace SourceMend.Rule

open Pattern

/-- That a match of a rule becomes `t`. -/
def Replaces (r : Rule) (pre mid post t : Text) : Prop :=
  ∃ gs, Chosen r.pattern.node pre mid post gs
    ∧ r.transform.replacement r.pattern ⟨pre.length, (pre ++ mid).length, mid, gs⟩ = .ok t

/-- What a rule leaves of a text after `pre`, and in how many places it differs. -/
inductive Rewrites (r : Rule) : Text → Text → Text → Nat → Prop where
  /-- There is no match. -/
  | nothing {pre tail : Text} : (∀ a b, tail = a ++ b → ¬ Starts r.pattern.node (pre ++ a) b) →
      Rewrites r pre tail tail 0
  /-- The first match comes after a gap, and the others come after it. -/
  | after {pre gap mid post t out : Text} {fixes : Nat} :
      Barren r.pattern.node pre gap (mid ++ post) → r.Replaces (pre ++ gap) mid post t →
      Rewrites r (pre ++ gap ++ mid) post out fixes →
      Rewrites r pre (gap ++ (mid ++ post)) (gap ++ (t ++ out))
        (if t = mid then fixes else fixes + 1)

variable {r : Rule} {s pre tail out : Text} {ms : List Match} {edits : List (Match × Text)}
  {fixes : Nat}

theorem edit_eq_ok {m : Match} {e : Match × Text} (h : r.edit m = .ok e) :
    e.1 = m ∧ r.transform.replacement r.pattern m = .ok e.2 := by
  unfold edit at h
  split at h
  next t ht =>
    cases h
    exact ⟨rfl, ht⟩
  next => cases h

theorem mapM_edit_cons {m : Match} (h : (m :: ms).mapM r.edit = .ok edits) :
    ∃ t rest, edits = (m, t) :: rest ∧ r.transform.replacement r.pattern m = .ok t
      ∧ ms.mapM r.edit = .ok rest := by
  rw [List.mapM_cons] at h
  cases he : r.edit m with
  | error f => simp [he, bind, Except.bind] at h
  | ok e =>
    cases hrest : ms.mapM r.edit with
    | error f => simp [he, hrest, bind, Except.bind] at h
    | ok rest =>
      simp only [he, hrest, bind, Except.bind, pure, Except.pure, Except.ok.injEq] at h
      obtain ⟨hm, ht⟩ := edit_eq_ok he
      exact ⟨e.2, rest, by rw [← h, ← hm], ht, rfl⟩

theorem splice_cons (pre gap mid post t : Text) (gs : List (Nat × Text))
    (edits : List (Match × Text)) :
    splice pre.length (gap ++ (mid ++ post))
        ((⟨(pre ++ gap).length, (pre ++ gap ++ mid).length, mid, gs⟩, t) :: edits)
      = gap ++ (t ++ splice (pre ++ gap ++ mid).length post edits) := by
  have hstart : (pre ++ gap).length - pre.length = gap.length := by simp
  have hstop : (pre ++ gap ++ mid).length - pre.length = (gap ++ mid).length := by
    simp
  rw [splice, hstart, hstop, List.take_left', ← List.append_assoc gap mid post, List.drop_left']
  · simp
  · rfl
  · rfl

theorem rewrites_of_scans (h : Scans r.pattern.node pre tail ms)
    (hedits : ms.mapM r.edit = .ok edits) :
    Rewrites r pre tail (splice pre.length tail edits)
      (edits.filter fun e => e.2 != e.1.text).length := by
  induction h generalizing edits with
  | nothing h =>
    cases hedits
    exact .nothing h
  | @after pre gap mid post gs ms hbarren hchosen _ ih =>
    obtain ⟨t, rest, rfl, ht, hrest⟩ := mapM_edit_cons hedits
    have hall := Rewrites.after hbarren ⟨gs, hchosen, ht⟩ (ih hrest)
    rw [splice_cons]
    by_cases heq : t = mid
    · simpa [heq] using hall
    · simpa [heq] using hall

/-- Without a fix the text stays as it is. -/
theorem Rewrites.eq_of_zero (h : Rewrites r pre tail out fixes) (hfixes : fixes = 0) :
    out = tail := by
  induction h with
  | nothing => rfl
  | @after _ gap mid post t out fixes _ _ _ ih =>
    split at hfixes
    next ht => rw [ih hfixes, ht]
    next => cases hfixes

/-- What holds between every match and its replacement holds between the texts, if it holds between
texts that are the same and goes from parts over to what they make up. -/
theorem Rewrites.relates {R : Text → Text → Prop} (h : Rewrites r pre tail out fixes)
    (hrefl : ∀ x, R x x) (happend : ∀ {x y x' y'}, R x y → R x' y' → R (x ++ x') (y ++ y'))
    (hreplaced : ∀ {pre mid post t}, r.Replaces pre mid post t → R mid t) : R tail out := by
  induction h with
  | nothing => exact hrefl _
  | after _ hreplaces _ ih => exact happend (hrefl _) (happend (hreplaced hreplaces) ih)

/-- A rule that refuses no match edits the text, unless every edit leaves its match as it is. -/
theorem apply_eq_ok (h : r.apply s = .ok (out, fixes)) : ∃ edits,
    (r.pattern.matches s).mapM r.edit = .ok edits
      ∧ fixes = (edits.filter fun e => e.2 != e.1.text).length
      ∧ out = if fixes = 0 then s else splice 0 s edits := by
  simp only [apply, replacements, bind, Except.bind, pure, Except.pure] at h
  split at h
  next => cases h
  next edits hedits =>
    refine ⟨edits, hedits, ?_⟩
    split at h
    next hzero =>
      cases h
      exact ⟨hzero.symm, rfl⟩
    next hzero =>
      cases h
      exact ⟨rfl, (if_neg hzero).symm⟩

/-- What a rule does to a text. -/
theorem rewrites_of_apply (hn : r.pattern.node.orderly = true) (hleast : 0 < r.pattern.node.least)
    (h : r.apply s = .ok (out, fixes)) : Rewrites r [] s out fixes := by
  obtain ⟨edits, hedits, hfixes, hout⟩ := apply_eq_ok h
  have hrewrites := rewrites_of_scans (scans_matches hn hleast s) hedits
  rw [← hfixes] at hrewrites
  split at hout
  next hzero =>
    subst hout hzero
    rwa [hrewrites.eq_of_zero rfl] at hrewrites
  next => rwa [hout]

/-! ## Failures -/

/-- Whether the transform of a rule refuses some match in a text. -/
def refuses (r : Rule) (s : Text) : Bool :=
  (r.pattern.matches s).any fun m => !(r.transform.replacement r.pattern m).isOk

theorem isOk_eq_true_iff {ε α : Type} {x : Except ε α} : x.isOk = true ↔ ∃ a, x = .ok a := by
  cases x <;> simp [Except.isOk, Except.toBool]

theorem isOk_eq_false_iff {ε α : Type} {x : Except ε α} : x.isOk = false ↔ ∃ e, x = .error e := by
  cases x <;> simp [Except.isOk, Except.toBool]

theorem refuses_iff : r.refuses s = true ↔ ∃ m ∈ r.pattern.matches s, ∃ reason,
    r.transform.replacement r.pattern m = .error reason := by
  simp [refuses, isOk_eq_false_iff]

theorem refuses_eq_false_iff : r.refuses s = false ↔ ∀ m ∈ r.pattern.matches s, ∃ t,
    r.transform.replacement r.pattern m = .ok t := by
  simp [refuses, isOk_eq_true_iff]

/-- The first match that is refused decides. -/
theorem mapM_edit_cases (r : Rule) (ms : List Match) :
    (∃ reason, ms.mapM r.edit = .error ⟨r.name, reason⟩)
        ∧ (ms.any fun m => !(r.transform.replacement r.pattern m).isOk) = true
      ∨ (∃ edits, ms.mapM r.edit = .ok edits)
        ∧ (ms.any fun m => !(r.transform.replacement r.pattern m).isOk) = false := by
  induction ms with
  | nil => exact .inr ⟨⟨[], rfl⟩, rfl⟩
  | cons m ms ih =>
    cases hm : r.transform.replacement r.pattern m with
    | error reason =>
      refine .inl ⟨⟨reason, ?_⟩, by simp [hm, Except.isOk, Except.toBool]⟩
      simp [List.mapM_cons, edit, hm, bind, Except.bind]
    | ok t =>
      have hany : ((m :: ms).any fun m => !(r.transform.replacement r.pattern m).isOk)
          = ms.any fun m => !(r.transform.replacement r.pattern m).isOk := by
        simp [hm, Except.isOk, Except.toBool]
      rw [hany]
      refine ih.imp (And.imp_left ?_) (And.imp_left ?_)
      · rintro ⟨reason, hms⟩
        exact ⟨reason, by simp [List.mapM_cons, edit, hm, hms, bind, Except.bind]⟩
      · rintro ⟨edits, hms⟩
        exact ⟨(m, t) :: edits,
          by simp [List.mapM_cons, edit, hm, hms, bind, Except.bind, pure, Except.pure]⟩

/-- A rule gives an error exactly if it refuses a match. -/
theorem apply_cases (r : Rule) (s : Text) :
    (∃ reason, r.apply s = .error ⟨r.name, reason⟩) ∧ r.refuses s = true
      ∨ (∃ e, r.apply s = .ok e) ∧ r.refuses s = false := by
  refine (r.mapM_edit_cases (r.pattern.matches s)).imp (And.imp_left ?_) (And.imp_left ?_)
  · rintro ⟨reason, hedits⟩
    exact ⟨reason, by simp [apply, replacements, hedits, bind, Except.bind]⟩
  · rintro ⟨edits, hedits⟩
    exact ⟨_, by simp only [apply, replacements, hedits, bind, Except.bind]; rfl⟩

/-- A rule fails only because it refuses to replace a match. -/
theorem exists_of_apply_eq_error {f : RuleFailure} (h : r.apply s = .error f) :
    ∃ pre mid post gs reason, Chosen r.pattern.node pre mid post gs
      ∧ r.transform.replacement r.pattern ⟨pre.length, (pre ++ mid).length, mid, gs⟩
        = .error reason := by
  rcases r.apply_cases s with ⟨-, hrefuses⟩ | ⟨⟨e, he⟩, -⟩
  · obtain ⟨m, hm, reason, hreason⟩ := refuses_iff.1 hrefuses
    obtain ⟨pre, mid, post, gs, rfl, hchosen⟩ := (stand_matches r.pattern s).chosen_of_mem hm
    exact ⟨pre, mid, post, gs, reason, hchosen, hreason⟩
  · rw [he] at h
    cases h

end SourceMend.Rule
