import SourceMend.Proofs.Pattern.Search

/-!
# Matches one after another

`Scans` describes the matches of a pattern whose matches have a character.  `Stand` is
what is left of it for a pattern that may match the empty text: each match is the one
that the search finds at its position, and the matches stand in the text from left to
right and do not overlap (`stand_matches`).
-/

namespace SourceMend.Pattern

variable {n : Node CharSet Look} {s pre tail gap : Text} {st : State} {m : Match} {ms : List Match}

/-- Matches one after another in a text after `pre`. -/
inductive Stand (n : Node CharSet Look) : Text → Text → List Match → Prop where
  /-- There is no further match. -/
  | nil {pre tail : Text} : Stand n pre tail []
  /-- The next match comes after a gap, and the others come after it. -/
  | cons {pre gap mid post : Text} {gs : Captures} {ms : List Match} :
      Chosen n (pre ++ gap) mid post gs → Stand n (pre ++ gap ++ mid) post ms →
      Stand n pre (gap ++ (mid ++ post))
        (⟨(pre ++ gap).length, (pre ++ gap ++ mid).length, mid, gs⟩ :: ms)

theorem Stand.widen (h : Stand n (pre ++ gap) tail ms) : Stand n pre (gap ++ tail) ms := by
  generalize hpre : pre ++ gap = p at h
  cases h with
  | nil => exact .nil
  | @cons _ gap' mid post gs ms hchosen hrest =>
    subst hpre
    have h : Stand n pre (gap ++ gap' ++ (mid ++ post)) (⟨(pre ++ (gap ++ gap')).length,
        (pre ++ (gap ++ gap') ++ mid).length, mid, gs⟩ :: ms) :=
      .cons (by simpa using hchosen) (by simpa using hrest)
    simpa using h

/-- A match stands somewhere in the text. -/
theorem Stand.chosen_of_mem (h : Stand n pre tail ms) (hm : m ∈ ms) :
    ∃ pre mid post gs, m = ⟨pre.length, (pre ++ mid).length, mid, gs⟩ ∧ Chosen n pre mid post gs := by
  induction h with
  | nil => cases hm
  | cons hchosen _ ih =>
    rcases List.mem_cons.1 hm with rfl | hm
    · exact ⟨_, _, _, _, rfl, hchosen⟩
    · exact ih hm

/-- What the search finds stands somewhere in the rest of the text. -/
theorem find?_eq_some {start : Nat} (hs : s = pre ++ tail)
    (h : (Fitted.ofNode n s).find? tail.length = some (start, st)) :
    ∃ gap mid post, tail = gap ++ (mid ++ post) ∧ start = (mid ++ post).length
      ∧ st.left = post.length ∧ Chosen n (pre ++ gap) mid post (st.captures s) := by
  induction tail generalizing pre with
  | nil =>
    rw [List.length_nil, find?_zero] at h
    obtain ⟨st', hst, heq⟩ := Option.map_eq_some_iff.1 h
    obtain ⟨rfl, rfl⟩ := Prod.mk.inj heq
    subst hs
    obtain ⟨mid, post, htail, hleft, hchosen⟩ := attempt_eq_some rfl hst
    exact ⟨[], mid, post, htail, by rw [← htail]; rfl, hleft, by simpa using hchosen⟩
  | cons c tail ih =>
    rw [List.length_cons, find?_succ] at h
    split at h
    · next st' hst =>
      obtain ⟨rfl, rfl⟩ := Prod.mk.inj (Option.some.inj h)
      subst hs
      obtain ⟨mid, post, htail, hleft, hchosen⟩ := attempt_eq_some rfl hst
      exact ⟨[], mid, post, htail, by rw [← htail]; rfl, hleft, by simpa using hchosen⟩
    · have hs' : s = (pre ++ [c]) ++ tail := by simpa using hs
      obtain ⟨gap, mid, post, rfl, hstart, hleft, hchosen⟩ := ih hs' h
      exact ⟨c :: gap, mid, post, rfl, hstart, hleft, by simpa using hchosen⟩

theorem stand_findAll (hs : s = pre ++ tail) (afterMatch : Bool) : Stand n pre tail
    (((Fitted.ofNode n s).findAll tail.length afterMatch).map fun m =>
      matchOf s.toArray m.1 m.2) := by
  induction hk : 2 * tail.length + (if afterMatch then 0 else 1) using Nat.strongRecOn
    generalizing pre tail afterMatch with
  | ind k ih =>
    subst hk
    unfold Fitted.findAll
    split
    · exact .nil
    · next start st hfind =>
      split
      · next hnext =>
        obtain ⟨gap, mid, post, rfl, rfl, hleft, hchosen⟩ := find?_eq_some hs hfind
        have hlt : 2 * post.length + 0
            < 2 * (gap ++ (mid ++ post)).length + if afterMatch then 0 else 1 := by
          rcases hnext with hlt | ⟨heq, hafter⟩
          · omega
          · simp only [hafter, Bool.false_eq_true, if_false]
            omega
        have hs' : s = pre ++ gap ++ (mid ++ post) := by simp [hs]
        rw [List.map_cons, matchOf_eq hs' hleft, hleft]
        exact .cons hchosen (ih _ hlt (by simp [hs]) true rfl)
      -- the empty match at the end of the match before it does not count
      · cases tail with
        | nil => exact .nil
        | cons c tail =>
          have hlt : 2 * tail.length + 1
              < 2 * (c :: tail).length + if afterMatch then 0 else 1 := by
            rw [List.length_cons]
            omega
          have hs' : s = (pre ++ [c]) ++ tail := by simpa using hs
          exact (ih _ hlt hs' false rfl).widen

/-- The matches of a pattern stand in the text from left to right and do not overlap. -/
theorem stand_matches (p : Pattern) (s : Text) : Stand p.node [] s (p.matches s) :=
  stand_findAll rfl false

end SourceMend.Pattern
