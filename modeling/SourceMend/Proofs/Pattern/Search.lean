import SourceMend.Pattern
import SourceMend.Proofs.Pattern.Sweep

/-!
# The matches of a pattern

`Scans` says what the matches of a pattern in a text are, one after another: each
is the chosen match at the first position that has one, and after the last match
there is none.  `scans_matches` is this for patterns whose matches have a
character.
-/

namespace SourceMend.Pattern

/-- Whether there is a match at a position. -/
def Starts (n : Node CharSet Look) (pre tail : Text) : Prop :=
  ∃ mid post gs, tail = mid ++ post ∧ NodeSpans n pre mid post gs

/-- Whether there is no match before the end of `gap`. -/
def Barren (n : Node CharSet Look) (pre gap tail : Text) : Prop :=
  ∀ a b, gap = a ++ b → b ≠ [] → ¬ Starts n (pre ++ a) (b ++ tail)

/-- Whether a match is the one that the search finds at its position. -/
def Chosen (n : Node CharSet Look) (pre mid post : Text) (gs : Captures) : Prop :=
  ∃ st, (Fitted.ofNode n (pre ++ (mid ++ post))).node.run { left := (mid ++ post).length } some
    = some st ∧ st.left = post.length ∧ st.captures (pre ++ (mid ++ post)) = gs

variable {n : Node CharSet Look} {s pre mid post tail : Text} {gs : Captures} {st : State}

theorem Chosen.spans (h : Chosen n pre mid post gs) : NodeSpans n pre mid post gs := by
  obtain ⟨st, hrun, hleft, hgroups⟩ := h
  obtain ⟨mid', post', gs', st', htail, hspans, hleft', hgroups', heq⟩ :=
    run_sound _ _ pre (mid ++ post) hrun rfl rfl
  obtain rfl := Option.some.inj heq
  obtain ⟨rfl, rfl⟩ := List.append_inj' htail (hleft.symm.trans hleft')
  rw [hgroups] at hgroups'
  obtain rfl : gs = gs' := by simpa [State.captures] using hgroups'
  exact spans_of_ofNode hspans rfl

theorem chosen_of_run (hrun : (Fitted.ofNode n (pre ++ tail)).node.run { left := tail.length } some
    = some st) : ∃ mid post, tail = mid ++ post ∧ st.left = post.length
      ∧ Chosen n pre mid post (st.captures (pre ++ tail)) := by
  obtain ⟨mid, post, _, st', rfl, -, hleft, -, heq⟩ := run_sound _ _ pre tail hrun rfl rfl
  obtain rfl := Option.some.inj heq
  exact ⟨mid, post, rfl, hleft, st', hrun, hleft, rfl⟩

/-- The search finds a match where there is one. -/
theorem exists_chosen (hn : n.orderly = true) (h : Starts n pre tail) :
    ∃ mid post gs, tail = mid ++ post ∧ Chosen n pre mid post gs := by
  obtain ⟨mid, post, gs, rfl, h⟩ := h
  have hrun : ((Fitted.ofNode n (pre ++ (mid ++ post))).node.run
      { left := (mid ++ post).length } some).isSome :=
    run_complete (ofNode_spans h rfl) ((orderly_ofNode n _).trans hn) rfl (fun _ _ => List.not_mem_nil)
      fun _ _ _ => rfl
  obtain ⟨st, hst⟩ := Option.isSome_iff_exists.1 hrun
  obtain ⟨mid', post', htail, -, hchosen⟩ := chosen_of_run hst
  exact ⟨mid', post', _, htail, hchosen⟩

/-! ## One match -/

/-- What the search does at one position. -/
def attempt (f : Fitted) (left : Nat) : Option State :=
  if f.starts.has left then f.node.run { left } some else none

theorem attempt_eq_none (hn : n.orderly = true)
    (h : attempt (Fitted.ofNode n (pre ++ tail)) tail.length = none) : ¬ Starts n pre tail := by
  intro hstarts
  obtain ⟨mid, post, gs, rfl, st, hrun, -⟩ := exists_chosen hn hstarts
  obtain ⟨mid', post', gs', htail, hspans⟩ := hstarts
  have hhas := ofNode_starts hspans (s := pre ++ (mid ++ post)) (by rw [htail])
  rw [← htail] at hhas
  rw [attempt, if_pos hhas, hrun] at h
  cases h

theorem attempt_eq_some {left : Nat} (hleft : left = tail.length)
    (h : attempt (Fitted.ofNode n (pre ++ tail)) left = some st) :
    ∃ mid post, tail = mid ++ post ∧ st.left = post.length
      ∧ Chosen n pre mid post (st.captures (pre ++ tail)) := by
  subst hleft
  unfold attempt at h
  split at h
  next => exact chosen_of_run h
  next => cases h

theorem find?_zero (f : Fitted) : f.find? 0 = (attempt f 0).map fun st => (0, st) := by
  simp only [Fitted.find?, attempt]
  split <;> rfl

theorem find?_succ (f : Fitted) (left : Nat) : f.find? (left + 1) =
    match attempt f (left + 1) with
    | some st => some (left + 1, st)
    | none => f.find? left := rfl

theorem barren_nil (n : Node CharSet Look) (pre tail : Text) : Barren n pre [] tail := by
  intro a b h hb
  exact absurd (List.append_eq_nil_iff.1 h.symm).2 hb

theorem Barren.cons {gap : Text} {c : Char} (hfirst : ¬ Starts n pre (c :: gap ++ tail))
    (h : Barren n (pre ++ [c]) gap tail) : Barren n pre (c :: gap) tail := by
  intro a b hab hb
  cases a with
  | nil =>
    obtain rfl : c :: gap = b := hab
    simpa using hfirst
  | cons d a =>
    obtain ⟨rfl, rfl⟩ := List.cons.inj hab
    simpa using h a b rfl hb

/-- What the search finds after `pre`. -/
inductive Found (n : Node CharSet Look) (s pre tail : Text) : Option (Nat × State) → Prop where
  /-- There is no match. -/
  | nothing : (∀ a b, tail = a ++ b → ¬ Starts n (pre ++ a) b) → Found n s pre tail none
  /-- The first match comes after a gap. -/
  | after {gap mid post : Text} {st : State} : tail = gap ++ (mid ++ post) →
      Barren n pre gap (mid ++ post) → Chosen n (pre ++ gap) mid post (st.captures s) →
      st.left = post.length → Found n s pre tail (some ((mid ++ post).length, st))

/-- What is attempted at a position is found there. -/
theorem Found.here (hs : s = pre ++ tail)
    (h : attempt (Fitted.ofNode n s) tail.length = some st) :
    Found n s pre tail (some (tail.length, st)) := by
  subst hs
  obtain ⟨mid, post, rfl, hleft, hchosen⟩ := attempt_eq_some rfl h
  exact .after (List.nil_append _).symm (barren_nil n pre _) (by simpa using hchosen) hleft

/-- Where there is no match, what is found is what is found after the next character. -/
theorem Found.cons {c : Char} {x : Option (Nat × State)} (hfirst : ¬ Starts n pre (c :: tail))
    (h : Found n s (pre ++ [c]) tail x) : Found n s pre (c :: tail) x := by
  cases h with
  | nothing hnone =>
    refine .nothing fun a b hab => ?_
    cases a with
    | nil =>
      obtain rfl : c :: tail = b := hab
      simpa using hfirst
    | cons d a =>
      obtain ⟨rfl, rfl⟩ := List.cons.inj hab
      simpa using hnone a b rfl
  | @after gap mid post st htail hbarren hchosen hleft =>
    refine .after (congrArg (c :: ·) htail) (hbarren.cons ?_) (by simpa using hchosen) hleft
    rwa [List.cons_append, ← htail]

theorem found (hn : n.orderly = true) (hs : s = pre ++ tail) :
    Found n s pre tail ((Fitted.ofNode n s).find? tail.length) := by
  induction tail generalizing pre with
  | nil =>
    rw [List.length_nil, find?_zero]
    cases h : attempt (Fitted.ofNode n s) 0 with
    | none =>
      refine .nothing fun a b hab => ?_
      obtain ⟨rfl, rfl⟩ := List.append_eq_nil_iff.1 hab.symm
      subst hs
      simpa using attempt_eq_none hn h
    | some st => exact .here hs h
  | cons c tail ih =>
    rw [List.length_cons, find?_succ]
    cases h : attempt (Fitted.ofNode n s) (tail.length + 1) with
    | none => exact .cons (attempt_eq_none hn (hs ▸ h)) (ih (by simpa using hs))
    | some st => exact .here hs h

/-! ## All matches -/

/-- What the matches of a pattern after `pre` are. -/
inductive Scans (n : Node CharSet Look) : Text → Text → List Match → Prop where
  /-- There is no match. -/
  | nothing {pre tail : Text} : (∀ a b, tail = a ++ b → ¬ Starts n (pre ++ a) b) →
      Scans n pre tail []
  /-- The first match comes after a gap, and the others come after it. -/
  | after {pre gap mid post : Text} {gs : Captures} {ms : List Match} :
      Barren n pre gap (mid ++ post) → Chosen n (pre ++ gap) mid post gs →
      Scans n (pre ++ gap ++ mid) post ms →
      Scans n pre (gap ++ (mid ++ post))
        (⟨(pre ++ gap).length, (pre ++ gap ++ mid).length, mid, gs⟩ :: ms)

theorem matchOf_eq (hs : s = pre ++ (mid ++ post)) (hleft : st.left = post.length) :
    matchOf s.toArray (mid ++ post).length st
      = ⟨pre.length, (pre ++ mid).length, mid, st.captures s⟩ := by
  have hslice (a b : Nat) : (s.toArray.extract (s.toArray.size - a) (s.toArray.size - b)).toList
      = cut s a b := by simp [cut]
  have hmid : cut s (mid ++ post).length post.length = mid := hs ▸ cut_eq pre mid post
  simp only [matchOf, hslice, hleft, hmid, State.captures, Match.mk.injEq, and_true]
  subst hs
  simp only [List.size_toArray, List.length_append]
  omega

theorem scans_findAll (hn : n.orderly = true) (hleast : 0 < n.least) (hs : s = pre ++ tail)
    (afterMatch : Bool) : Scans n pre tail
      (((Fitted.ofNode n s).findAll tail.length afterMatch).map fun m =>
        matchOf s.toArray m.1 m.2) := by
  induction hk : tail.length using Nat.strongRecOn generalizing pre tail afterMatch with
  | ind k ih =>
    subst hk
    have hfound := found hn hs
    unfold Fitted.findAll
    generalize (Fitted.ofNode n s).find? tail.length = x at hfound ⊢
    cases hfound with
    | nothing h => exact .nothing h
    | @after gap mid post st htail hbarren hchosen hleft =>
      have hmid : mid.length ≠ 0 := by
        simpa using Node.ne_nil_of_least hchosen.spans hleast
      have hlt : st.left < tail.length := by
        simp only [hleft, htail, List.length_append]
        omega
      have hs' : s = pre ++ gap ++ (mid ++ post) := by simp [hs, htail]
      have hrest := ih post.length (hleft ▸ hlt) (show s = pre ++ gap ++ mid ++ post by simp [hs'])
        true rfl
      simp only
      rw [dif_pos (.inl hlt), List.map_cons, matchOf_eq hs' hleft, hleft, htail]
      exact .after hbarren hchosen hrest

/-- The matches of a pattern whose matches have a character. -/
theorem scans_matches {p : Pattern} (hn : p.node.orderly = true) (hleast : 0 < p.node.least)
    (s : Text) : Scans p.node [] s (p.matches s) :=
  scans_findAll hn hleast rfl false

end SourceMend.Pattern
