import SourceMend.Proofs.Pattern.Run

/-!
# A sweep leaves out nothing that matters

The positions that a sweep finds for a part of a pattern are those where this
part fits, without some from which the whole pattern has no match.  So the
fitted pattern spans nothing else than the pattern (`spans_of_ofNode`), and every
match of the pattern in the text is still one of the fitted pattern
(`ofNode_spans`).

The invariant of a sweep is `Swept`.  It is relative to the positions from which
what follows a node can succeed, since a position is kept if such a position can
be reached from it.
-/

namespace SourceMend.Pattern

/-- Whether the next character is in a set. -/
def takesChar (s : CharSet) (_ post : Text) : Prop := post.head?.any s.contains = true

/-- Whether an assertion holds between two texts. -/
def looksAt (l : Look) (pre post : Text) : Prop := l.holds pre.getLast? post.head? = true

/-- What the node of a pattern spans. -/
abbrev NodeSpans : Node CharSet Look → Text → Text → Text → Captures → Prop :=
  Spans takesChar looksAt

/-- Whether a match of `n` leads from a position to one in `R`. -/
def Reaches (s : Text) (n : Node CharSet Look) (R : Nat → Prop) (k : Nat) : Prop :=
  ∃ pre mid post gs, s = pre ++ (mid ++ post) ∧ (mid ++ post).length = k
    ∧ NodeSpans n pre mid post gs ∧ R post.length

/-- Whether a match of `n` that takes something leads from a position to one in `R`. -/
def Advances (s : Text) (n : Node CharSet Look) (R : Nat → Prop) (k : Nat) : Prop :=
  ∃ pre mid post gs, s = pre ++ (mid ++ post) ∧ (mid ++ post).length = k
    ∧ mid ≠ [] ∧ NodeSpans n pre mid post gs ∧ R post.length

/-! ## Where a match leads -/

section Reaches

variable {s pre post : Text} {k : Nat} {R : Nat → Prop} {m n : Node CharSet Look} {place : Nat}
  {greedy : Bool}

/-- A text is split at a position in one way only. -/
theorem eq_of_split {a b : Text} (hs : s = pre ++ post) (hk : post.length = k) (h : s = a ++ b)
    (hb : b.length = k) : a = pre ∧ b = post :=
  List.append_inj' (h.symm.trans hs) (hb.trans hk.symm)

theorem not_reaches_never : ¬ Reaches s .never R k := by
  rintro ⟨_, _, _, _, _, _, h, _⟩
  cases h

theorem Reaches.of_skip (h : Reaches s .skip R k) : R k := by
  obtain ⟨_, _, _, _, _, rfl, h, hR⟩ := h
  cases h
  exact hR

theorem Reaches.of_group {i : Nat} (h : Reaches s (.group i n) R k) : Reaches s n R k := by
  obtain ⟨a, mid, b, _, hs, hk, h, hR⟩ := h
  cases h with
  | group h => exact ⟨a, mid, b, _, hs, hk, h, hR⟩

theorem Reaches.of_seq (h : Reaches s (.seq m n) R k) : Reaches s m (Reaches s n R) k := by
  obtain ⟨a, _, b, _, hs, hk, h, hR⟩ := h
  cases h with
  | @seq _ _ _ x y _ _ _ hx hy =>
    rw [List.append_assoc] at hs hk
    exact ⟨a, x, y ++ b, _, hs, hk, hx, ⟨_, _, _, _, by simpa using hs, rfl, hy, hR⟩⟩

theorem Reaches.of_fork (h : Reaches s (.fork place m n) R k) :
    Reaches s m R k ∨ Reaches s n R k := by
  obtain ⟨a, mid, b, _, hs, hk, h, hR⟩ := h
  cases h with
  | first h => exact .inl ⟨a, mid, b, _, hs, hk, h, hR⟩
  | second h => exact .inr ⟨a, mid, b, _, hs, hk, h, hR⟩

/-- A loop is left at once, or its body leads further. -/
theorem Reaches.of_loop (h : Reaches s (.loop place greedy n) R k) :
    R k ∨ Advances s n (Reaches s (.loop place greedy n) R) k := by
  obtain ⟨a, _, b, _, hs, hk, h, hR⟩ := h
  cases h with
  | leave => exact .inl (hk ▸ hR)
  | @round _ _ _ _ x y _ _ _ hne hx hy =>
    rw [List.append_assoc] at hs hk
    exact .inr ⟨a, x, y ++ b, _, hs, hk, hne, hx, ⟨_, _, _, _, by simpa using hs, rfl, hy, hR⟩⟩

/-- The body of a loop that is entered leads to where the loop does, or further. -/
theorem Reaches.of_again (h : Reaches s (.again place greedy n) R k) :
    Reaches s n R k ∨ Advances s n (Reaches s (.again place greedy n) R) k := by
  obtain ⟨a, mid, b, _, hs, hk, h, hR⟩ := h
  cases h with
  | once h => exact .inl ⟨a, mid, b, _, hs, hk, h, hR⟩
  | @further _ _ _ _ x y _ _ _ hne hx hy =>
    rw [List.append_assoc] at hs hk
    exact .inr ⟨a, x, y ++ b, _, hs, hk, hne, hx, ⟨_, _, _, _, by simpa using hs, rfl, hy, hR⟩⟩

/-- A match takes nothing, or leads further. -/
theorem Reaches.advances (h : Reaches s n R k) : R k ∨ Advances s n R k := by
  obtain ⟨a, mid, b, _, hs, hk, h, hR⟩ := h
  by_cases hmid : mid = []
  · subst hmid
    exact .inl (hk ▸ hR)
  · exact .inr ⟨a, mid, b, _, hs, hk, hmid, h, hR⟩

theorem Advances.reaches (h : Advances s n R k) : Reaches s n R k :=
  let ⟨a, mid, b, gs, hs, hk, _, h, hR⟩ := h
  ⟨a, mid, b, gs, hs, hk, h, hR⟩

theorem Reaches.mono {R' : Nat → Prop} (h : Reaches s n R k) (hR : ∀ j, R j → R' j) :
    Reaches s n R' k :=
  let ⟨a, mid, b, gs, hs, hk, h, hb⟩ := h
  ⟨a, mid, b, gs, hs, hk, h, hR _ hb⟩

theorem Advances.mono {R' : Nat → Prop} (h : Advances s n R k) (hR : ∀ j, R j → R' j) :
    Advances s n R' k :=
  let ⟨a, mid, b, gs, hs, hk, hne, h, hb⟩ := h
  ⟨a, mid, b, gs, hs, hk, hne, h, hR _ hb⟩

end Reaches

/-! ## Positions -/

theorem Positions.has_push (ps : Positions) (b : Bool) (j : Nat) :
    Positions.has (ps.push b) j = if j = ps.size then b else ps.has j := by
  simp only [Positions.has, Array.getD_eq_getD_getElem?, Array.getElem?_push]
  split <;> rfl

namespace Sweep

/-- The node that is swept. -/
def plain (n : Sweep) : Node CharSet Look := n.map (·.set) (·.look)

/-- The node with the positions found. -/
def fitted (n : Sweep) : Node Positions Positions := n.map (·.found) (·.found)

/-- What holds of a node when the first `k` positions of a text are swept and what follows the node
can succeed from the positions in `R` only. -/
def Swept (s : Text) (k : Nat) : Sweep → (Nat → Prop) → Prop
  | .skip, _ => True
  | .never, _ => True
  | .take t, R =>
    t.found.size = k
      ∧ (∀ pre post, s = pre ++ post → post.length < k → t.found.has post.length = true →
        takesChar t.set pre post)
      ∧ (∀ pre c post, s = pre ++ c :: post → post.length + 1 < k → t.set.contains c = true →
        R post.length → t.found.has (post.length + 1) = true)
      ∧ ∀ j, k = j + 1 → R j → t.ahead = true
  | .check c, _ =>
    c.found.size = k ∧ ∀ pre post, s = pre ++ post → post.length < k →
      (c.found.has post.length = true ↔ looksAt c.look pre post)
  | .group _ n, R => Swept s k n R
  | .seq m n, R => Swept s k m (Reaches s (plain n) R) ∧ Swept s k n R
  | .fork _ m n, R => Swept s k m R ∧ Swept s k n R
  | .loop place greedy n, R => Swept s k n (Reaches s (.loop place greedy (plain n)) R)
  | .again place greedy n, R =>
    Swept s k n fun j => R j ∨ Reaches s (.again place greedy (plain n)) R j

variable {s pre mid post : Text} {gs : Captures} {k : Nat} {n : Sweep} {R : Nat → Prop}
  {rest : Bool}

theorem swept_begin (n : Node CharSet Look) (R : Nat → Prop) : Swept s 0 (begin n) R := by
  induction n generalizing R with
  | skip => trivial
  | never => trivial
  | take a => exact ⟨rfl, fun _ _ _ h => absurd h (Nat.not_lt_zero _),
    fun _ _ _ _ h => absurd h (Nat.not_lt_zero _), fun _ h => nomatch h⟩
  | check b => exact ⟨rfl, fun _ _ _ h => absurd h (Nat.not_lt_zero _)⟩
  | group i n ih => exact ih R
  | seq m n ihm ihn => exact ⟨ihm _, ihn R⟩
  | fork place m n ihm ihn => exact ⟨ihm R, ihn R⟩
  | loop place greedy n ih => exact ih _
  | again place greedy n ih => exact ih _

theorem plain_begin (n : Node CharSet Look) : plain (begin n) = n := by
  induction n with
  | skip => rfl
  | never => rfl
  | take a => rfl
  | check b => rfl
  | group i n ih => simpa [plain, begin, Node.map] using ih
  | seq m n ihm ihn => simpa [plain, begin, Node.map] using ⟨ihm, ihn⟩
  | fork place m n ihm ihn => simpa [plain, begin, Node.map] using ⟨ihm, ihn⟩
  | loop place greedy n ih => simpa [plain, begin, Node.map] using ih
  | again place greedy n ih => simpa [plain, begin, Node.map] using ih

/-! ## One position -/

/-- A match is possible from a position from which there is one. -/
theorem possible_of_spans (h : NodeSpans (plain n) pre mid post gs) (hn : Swept s k n R)
    (hs : s = pre ++ (mid ++ post)) (hk : (mid ++ post).length = k) (hR : R post.length)
    (hrest : mid = [] → rest = true) :
    possible pre.getLast? (mid ++ post).head? rest n = true := by
  induction n generalizing pre mid post gs R rest with
  | skip =>
    cases h
    exact hrest rfl
  | never => cases h
  | take t =>
    cases h with
    | take h =>
      have hahead : t.ahead = true := hn.2.2.2 post.length (by simpa using hk.symm) hR
      simpa [possible, hahead, takesChar] using h
  | check c =>
    cases h with
    | check h => exact Bool.and_eq_true_iff.2 ⟨hrest rfl, h⟩
  | group i n ih =>
    cases h with
    | group h => exact ih h hn hs hk hR hrest
  | seq m n ihm ihn =>
    cases h with
    | @seq _ _ _ x y _ gs hs' hx hy =>
      have hs : s = pre ++ x ++ (y ++ post) := by simpa using hs
      have hreach : Reaches s (plain n) R (y ++ post).length := ⟨_, _, _, _, hs, rfl, hy, hR⟩
      rw [List.append_assoc] at hk ⊢
      refine ihm hx hn.1 (by simpa using hs) hk hreach ?_
      rintro rfl
      rw [List.append_nil] at hy hs
      have hlater := ihn hy hn.2 hs hk hR hrest
      exact hlater
  | fork place m n ihm ihn =>
    cases h with
    | first h => exact Bool.or_eq_true_iff.2 (.inl (ihm h hn.1 hs hk hR hrest))
    | second h => exact Bool.or_eq_true_iff.2 (.inr (ihn h hn.2 hs hk hR hrest))
  | loop place greedy n ih =>
    cases h with
    | leave => exact Bool.or_eq_true_iff.2 (.inl (hrest rfl))
    | @round _ _ _ _ x y _ gs hs' hne hx hy =>
      have hs : s = pre ++ x ++ (y ++ post) := by simpa using hs
      rw [List.append_assoc] at hk ⊢
      exact Bool.or_eq_true_iff.2 (.inr (ih hx hn (by simpa using hs) hk ⟨_, _, _, _, hs, rfl, hy, hR⟩
        fun h => absurd h hne))
  | again place greedy n ih =>
    cases h with
    | once h => exact ih h hn hs hk (.inl hR) fun h => Bool.or_eq_true_iff.2 (.inl (hrest h))
    | @further _ _ _ _ x y _ gs hs' hne hx hy =>
      have hs : s = pre ++ x ++ (y ++ post) := by simpa using hs
      rw [List.append_assoc] at hk ⊢
      exact ih hx hn (by simpa using hs) hk (.inr ⟨_, _, _, _, hs, rfl, hy, hR⟩)
        fun h => absurd h hne

theorem plain_step (before after : Option Char) (rest : Bool) (n : Sweep) :
    plain (step before after rest n).1 = plain n := by
  induction n generalizing rest with
  | skip => rfl
  | never => rfl
  | take t => rfl
  | check c => rfl
  | group i n ih => simpa [plain, step, Node.map] using ih rest
  | seq m n ihm ihn => simpa [plain, step, Node.map] using ⟨ihm _, ihn rest⟩
  | fork place m n ihm ihn => simpa [plain, step, Node.map] using ⟨ihm rest, ihn rest⟩
  | loop place greedy n ih => simpa [plain, step, Node.map] using ih _
  | again place greedy n ih => simpa [plain, step, Node.map] using ih _

/-! ## One step -/

/-- The body of a loop may match at a position from which it leads further. -/
theorem possible_of_advances (h : Advances s (plain n) R k) (hn : Swept s k n R)
    (hs : s = pre ++ post) (hk : post.length = k) :
    possible pre.getLast? post.head? false n = true := by
  obtain ⟨a, mid, b, _, hs', hk', hne, h, hR⟩ := h
  obtain ⟨rfl, rfl⟩ := eq_of_split hs hk hs' hk'
  exact possible_of_spans h hn hs' hk' hR fun h => absurd h hne

theorem swept_step_take {t : TakeSweep} (ht : Swept s k (.take t) R) (hs : s = pre ++ post)
    (hk : post.length = k) (hrest : R k → rest = true) :
    Swept s (k + 1) (step pre.getLast? post.head? rest (.take t)).1 R
      ∧ (Reaches s (.take t.set) R k →
        (step pre.getLast? post.head? rest (.take t)).2 = true) := by
  obtain ⟨hsize, hsound, hfound, hahead⟩ := ht
  have hhere {a : Text} {c : Char} {b : Text} (h : s = a ++ c :: b) (hb : b.length + 1 = k)
      (hc : t.set.contains c = true) (hR : R b.length) :
      (t.ahead && post.head?.any t.set.contains) = true := by
    obtain ⟨rfl, rfl⟩ := eq_of_split hs hk h hb
    simpa [hahead b.length hb.symm hR] using hc
  refine ⟨⟨by simp [hsize], fun a b h hlt hhas => ?_, fun a c b h hlt hc hR => ?_,
    fun j hj hR => hrest (Nat.succ.inj hj ▸ hR)⟩, ?_⟩
  · simp only [Positions.has_push, hsize] at hhas
    split at hhas
    next hb =>
      obtain ⟨rfl, rfl⟩ := eq_of_split hs hk h hb
      exact (Bool.and_eq_true_iff.1 hhas).2
    next hb => exact hsound a b h (by omega) hhas
  · simp only [Positions.has_push, hsize]
    split
    next hb => exact hhere h hb hc hR
    next hb => exact hfound a c b h (by omega) hc hR
  · rintro ⟨a, _, b, _, hs', hk', h, hR⟩
    cases h with
    | take h => exact hhere hs' hk' (by simpa [takesChar] using h) hR

theorem swept_step_check {c : CheckSweep} (hc : Swept s k (.check c) R) (hs : s = pre ++ post)
    (hk : post.length = k) (hrest : R k → rest = true) :
    Swept s (k + 1) (step pre.getLast? post.head? rest (.check c)).1 R
      ∧ (Reaches s (.check c.look) R k →
        (step pre.getLast? post.head? rest (.check c)).2 = true) := by
  obtain ⟨hsize, hlook⟩ := hc
  refine ⟨⟨by simp [hsize], fun a b h hlt => ?_⟩, ?_⟩
  · simp only [Positions.has_push, hsize]
    split
    next hb =>
      obtain ⟨rfl, rfl⟩ := eq_of_split hs hk h hb
      exact Iff.rfl
    next hb => exact hlook a b h (by omega)
  · rintro ⟨a, _, b, _, hs', hk', h, hR⟩
    cases h with
    | check h =>
      obtain ⟨rfl, rfl⟩ := eq_of_split hs hk hs' hk'
      exact Bool.and_eq_true_iff.2 ⟨hrest (hk' ▸ hR), h⟩

/-- A step keeps the invariant, and tells of a position from which there is a match that there may
be one. -/
theorem swept_step (hn : Swept s k n R) (hs : s = pre ++ post) (hk : post.length = k)
    (hrest : R k → rest = true) :
    Swept s (k + 1) (step pre.getLast? post.head? rest n).1 R
      ∧ (Reaches s (plain n) R k → (step pre.getLast? post.head? rest n).2 = true) := by
  induction n generalizing R rest with
  | skip => exact ⟨trivial, fun h => hrest h.of_skip⟩
  | never => exact ⟨trivial, fun h => absurd h not_reaches_never⟩
  | take t => exact swept_step_take hn hs hk hrest
  | check c => exact swept_step_check hn hs hk hrest
  | group i n ih =>
    obtain ⟨hswept, hpossible⟩ := ih hn hrest
    exact ⟨hswept, fun h => hpossible h.of_group⟩
  | seq m n ihm ihn =>
    obtain ⟨hsweptn, hpossiblen⟩ := ihn hn.2 hrest
    -- What the second part can lead to is what follows the first one.
    obtain ⟨hsweptm, hpossiblem⟩ := ihm hn.1 hpossiblen
    refine ⟨⟨?_, hsweptn⟩, fun h => hpossiblem h.of_seq⟩
    rwa [plain_step]
  | fork place m n ihm ihn =>
    obtain ⟨hsweptm, hpossiblem⟩ := ihm hn.1 hrest
    obtain ⟨hsweptn, hpossiblen⟩ := ihn hn.2 hrest
    exact ⟨⟨hsweptm, hsweptn⟩,
      fun h => Bool.or_eq_true_iff.2 (h.of_fork.imp hpossiblem hpossiblen)⟩
  | loop place greedy n ih =>
    have hround : Reaches s (.loop place greedy (plain n)) R k →
        (rest || possible pre.getLast? post.head? false n) = true := fun h =>
      Bool.or_eq_true_iff.2 (h.of_loop.imp hrest fun h => possible_of_advances h hn hs hk)
    refine ⟨?_, hround⟩
    have hswept := (ih hn hround).1
    simp only [step, Swept, plain_step]
    exact hswept
  | again place greedy n ih =>
    have hround : R k ∨ Reaches s (.again place greedy (plain n)) R k →
        (rest || possible pre.getLast? post.head? false n) = true := by
      have hadvance {Q : Nat → Prop} (h : Advances s (plain n) Q k)
          (hQ : ∀ j, Q j → R j ∨ Reaches s (.again place greedy (plain n)) R j) :=
        possible_of_advances (h.mono hQ) hn hs hk
      refine fun h => Bool.or_eq_true_iff.2 ?_
      obtain hR | h := h
      · exact .inl (hrest hR)
      obtain h | h := h.of_again
      · exact h.advances.imp hrest fun h => hadvance h fun _ => .inl
      · exact .inr (hadvance h fun _ => .inr)
    obtain ⟨hswept, hpossible⟩ := ih hn hround
    refine ⟨?_, fun h => hpossible ?_⟩
    · simp only [step, Swept, plain_step]
      exact hswept
    · obtain h | h := h.of_again
      · exact h.mono fun _ => .inl
      · exact h.reaches.mono fun _ => .inr

/-! ## What is found -/

/-- A fitted node spans nothing that the node does not span. -/
theorem spans_of_fitted (h : FittedSpans (fitted n) pre mid post gs) (hn : Swept s k n R)
    (hs : s = pre ++ (mid ++ post)) (hk : (mid ++ post).length < k) :
    NodeSpans (plain n) pre mid post gs := by
  simp only [fitted, plain, spans_map] at h ⊢
  induction h generalizing R with
  | skip => exact .skip
  | @take t c pre post hhas => exact .take (hn.2.1 pre (c :: post) hs hk hhas)
  | @check c pre post hhas => exact .check ((hn.2 pre post hs hk).1 hhas)
  | group _ ih => exact .group (ih hn hs hk)
  | @seq m n pre x y post _ _ _ _ ihx ihy =>
    rw [List.append_assoc] at hs hk
    exact .seq (ihx hn.1 hs hk) (ihy hn.2 (by simpa using hs) (Nat.lt_of_le_of_lt (by simp) hk))
  | first _ ih => exact .first (ih hn.1 hs hk)
  | second _ ih => exact .second (ih hn.2 hs hk)
  | leave => exact .leave
  | @round _ _ _ pre x y post _ _ hne _ _ ihx ihy =>
    rw [List.append_assoc] at hs hk
    exact .round hne (ihx hn hs hk) (ihy hn (by simpa using hs) (Nat.lt_of_le_of_lt (by simp) hk))
  | once _ ih => exact .once (ih hn hs hk)
  | @further _ _ _ pre x y post _ _ hne _ _ ihx ihy =>
    rw [List.append_assoc] at hs hk
    exact .further hne (ihx hn hs hk) (ihy hn (by simpa using hs) (Nat.lt_of_le_of_lt (by simp) hk))

/-- A fitted node spans everything that the node spans up to a position in `R`. -/
theorem fitted_of_spans (h : NodeSpans (plain n) pre mid post gs) (hn : Swept s k n R)
    (hs : s = pre ++ (mid ++ post)) (hk : (mid ++ post).length < k) (hR : R post.length) :
    FittedSpans (fitted n) pre mid post gs := by
  simp only [fitted, plain, spans_map] at h ⊢
  induction h generalizing R with
  | skip => exact .skip
  | @take t c pre post hc =>
    exact .take (hn.2.2.1 pre c post hs hk (by simpa [takesChar] using hc) hR)
  | @check c pre post hlook => exact .check ((hn.2 pre post hs hk).2 hlook)
  | group _ ih => exact .group (ih hn hs hk hR)
  | @seq m n pre x y post _ _ _ hy ihx ihy =>
    rw [List.append_assoc] at hs hk
    have hs' : s = pre ++ x ++ (y ++ post) := by simpa using hs
    exact .seq (ihx hn.1 hs hk ⟨_, _, _, _, hs', rfl, spans_map.2 hy, hR⟩)
      (ihy hn.2 hs' (Nat.lt_of_le_of_lt (by simp) hk) hR)
  | first _ ih => exact .first (ih hn.1 hs hk hR)
  | second _ ih => exact .second (ih hn.2 hs hk hR)
  | leave => exact .leave
  | @round place greedy n pre x y post _ _ hne _ hy ihx ihy =>
    rw [List.append_assoc] at hs hk
    have hs' : s = pre ++ x ++ (y ++ post) := by simpa using hs
    have hreach : Reaches s (.loop place greedy (plain n)) R (y ++ post).length :=
      ⟨_, _, _, _, hs', rfl, (spans_map (n := .loop place greedy n)).2 hy, hR⟩
    exact .round hne (ihx hn hs hk hreach) (ihy hn hs' (Nat.lt_of_le_of_lt (by simp) hk) hR)
  | once _ ih => exact .once (ih hn hs hk (.inl hR))
  | @further place greedy n pre x y post _ _ hne _ hy ihx ihy =>
    rw [List.append_assoc] at hs hk
    have hs' : s = pre ++ x ++ (y ++ post) := by simpa using hs
    have hreach : Reaches s (.again place greedy (plain n)) R (y ++ post).length :=
      ⟨_, _, _, _, hs', rfl, (spans_map (n := .again place greedy n)).2 hy, hR⟩
    exact .further hne (ihx hn hs hk (.inr hreach)) (ihy hn hs' (Nat.lt_of_le_of_lt (by simp) hk) hR)

/-! ## Whole texts -/

/-- What holds of a node and the starts found when the first `k` positions of a text are swept. -/
structure Progress (s : Text) (n₀ : Node CharSet Look) (k : Nat) (x : Sweep × Positions) : Prop where
  plain_eq : plain x.1 = n₀
  swept : Swept s k x.1 fun _ => True
  size : x.2.size = k
  starts : ∀ j < k, Reaches s n₀ (fun _ => True) j → x.2.has j = true

theorem Progress.step {n₀ : Node CharSet Look} {x : Sweep × Positions}
    (h : Progress s n₀ post.length x) (hs : s = pre ++ post) :
    Progress s n₀ (post.length + 1) ((step pre.getLast? post.head? true x.1).1,
      x.2.push (step pre.getLast? post.head? true x.1).2) := by
  obtain ⟨hswept, hpossible⟩ := swept_step h.swept hs rfl fun _ => rfl
  refine ⟨(plain_step _ _ _ _).trans h.plain_eq, hswept, by simp [h.size], fun j hj hreach => ?_⟩
  rw [Positions.has_push, h.size]
  split
  next hj' => exact hpossible (h.plain_eq ▸ hj' ▸ hreach)
  next hj' => exact h.starts j (by omega) hreach

theorem Progress.run {n₀ : Node CharSet Look} {x : Sweep × Positions} {before : Text}
    (h : Progress s n₀ post.length x) (hs : s = before.reverse ++ post) :
    Progress s n₀ (s.length + 1) (run post.head? before x) := by
  induction before generalizing post x with
  | nil =>
    have hlast := h.step hs
    obtain rfl : s = post := hs
    exact hlast
  | cons c before ih =>
    have hnext := h.step hs
    rw [List.reverse_cons, List.append_assoc] at hs
    have hrest := ih (show Progress s n₀ (c :: post).length _ by simpa using hnext) hs
    simpa [Sweep.run] using hrest

end Sweep

variable {n : Node CharSet Look} {s pre mid post : Text} {gs : Captures}

theorem Fitted.ofNode_progress (n : Node CharSet Look) (s : Text) :
    ∃ m : Sweep, Sweep.Progress s n (s.length + 1) (m, (Fitted.ofNode n s).starts)
      ∧ (Fitted.ofNode n s).node = Sweep.fitted m := by
  have hbegin : Sweep.Progress s n ([] : Text).length (Sweep.begin n, #[]) :=
    ⟨Sweep.plain_begin n, Sweep.swept_begin n _, rfl, fun _ h => absurd h (Nat.not_lt_zero _)⟩
  exact ⟨_, hbegin.run (by simp), rfl⟩

theorem length_lt {tail : Text} (hs : s = pre ++ tail) : tail.length < s.length + 1 := by
  rw [hs, List.length_append]
  omega

/-- The fitted pattern spans nothing else than the pattern. -/
theorem spans_of_ofNode (h : FittedSpans (Fitted.ofNode n s).node pre mid post gs)
    (hs : s = pre ++ (mid ++ post)) : NodeSpans n pre mid post gs := by
  obtain ⟨m, hm, heq⟩ := Fitted.ofNode_progress n s
  rw [heq] at h
  have hspans := Sweep.spans_of_fitted h hm.swept hs (length_lt hs)
  rwa [hm.plain_eq] at hspans

/-- A match of the pattern in the text is one of the fitted pattern. -/
theorem ofNode_spans (h : NodeSpans n pre mid post gs) (hs : s = pre ++ (mid ++ post)) :
    FittedSpans (Fitted.ofNode n s).node pre mid post gs := by
  obtain ⟨m, hm, heq⟩ := Fitted.ofNode_progress n s
  rw [heq]
  rw [← hm.plain_eq] at h
  exact Sweep.fitted_of_spans h hm.swept hs (length_lt hs) trivial

theorem orderly_ofNode (n : Node CharSet Look) (s : Text) :
    (Fitted.ofNode n s).node.orderly = n.orderly := by
  obtain ⟨m, hm, heq⟩ := Fitted.ofNode_progress n s
  rw [heq, ← hm.plain_eq, Sweep.fitted, Sweep.plain, Node.orderly_map, Node.orderly_map]

/-- The search tries every position from which there is a match. -/
theorem ofNode_starts (h : NodeSpans n pre mid post gs) (hs : s = pre ++ (mid ++ post)) :
    (Fitted.ofNode n s).starts.has (mid ++ post).length = true := by
  obtain ⟨m, hm, -⟩ := Fitted.ofNode_progress n s
  exact hm.starts _ (length_lt hs) ⟨pre, mid, post, gs, hs, rfl, h, trivial⟩

end SourceMend.Pattern
