import SourceMend.Proofs.CharSet
import SourceMend.Proofs.Pattern.Sweep

/-!
# What nodes span, in explicit form

One equivalence for each kind of node, so that what a pattern spans can be read
off its expression.  Rounds of a node that captures nothing span the texts that
consist of pieces which this node spans (`spans_loop`, `spans_again`).
-/

namespace SourceMend.Pattern

variable {pre mid post : Text} {gs : Captures} {m n : Node CharSet Look} {place : Nat}
  {greedy : Bool}

/-! ## Single nodes -/

@[simp] theorem spans_skip : NodeSpans .skip pre mid post gs ↔ mid = [] ∧ gs = [] := by
  constructor
  · intro h
    cases h
    exact ⟨rfl, rfl⟩
  · rintro ⟨rfl, rfl⟩
    exact .skip

@[simp] theorem spans_take {s : CharSet} :
    NodeSpans (.take s) pre mid post gs ↔ ∃ c, s.contains c = true ∧ mid = [c] ∧ gs = [] := by
  constructor
  · intro h
    cases h with
    | @take _ c _ _ h => exact ⟨c, by simpa [takesChar] using h, rfl, rfl⟩
  · rintro ⟨c, h, rfl, rfl⟩
    exact .take (by simpa [takesChar] using h)

@[simp] theorem spans_check {l : Look} :
    NodeSpans (.check l) pre mid post gs ↔ looksAt l pre post ∧ mid = [] ∧ gs = [] := by
  constructor
  · intro h
    cases h with
    | check h => exact ⟨h, rfl, rfl⟩
  · rintro ⟨h, rfl, rfl⟩
    exact .check h

@[simp] theorem spans_group {i : Nat} : NodeSpans (.group i n) pre mid post gs
    ↔ ∃ hs, NodeSpans n pre mid post hs ∧ gs = (i, mid) :: hs := by
  constructor
  · intro h
    cases h with
    | group h => exact ⟨_, h, rfl⟩
  · rintro ⟨hs, h, rfl⟩
    exact .group h

@[simp] theorem spans_fork : NodeSpans (.fork place m n) pre mid post gs
    ↔ NodeSpans m pre mid post gs ∨ NodeSpans n pre mid post gs := by
  constructor
  · intro h
    cases h with
    | first h => exact .inl h
    | second h => exact .inr h
  · rintro (h | h)
    · exact .first h
    · exact .second h

theorem spans_seq : NodeSpans (.seq m n) pre mid post gs
    ↔ ∃ x as y bs, NodeSpans m pre x (y ++ post) as ∧ NodeSpans n (pre ++ x) y post bs
      ∧ mid = x ++ y ∧ gs = bs ++ as := by
  constructor
  · intro h
    cases h with
    | seq hx hy => exact ⟨_, _, _, _, hx, hy, rfl, rfl⟩
  · rintro ⟨x, as, y, bs, hx, hy, rfl, rfl⟩
    exact .seq hx hy

/-! ## Literals -/

theorem spans_literal {cs : Text} :
    NodeSpans (literalNode cs) pre mid post gs ↔ mid = cs ∧ gs = [] := by
  induction cs generalizing pre mid gs with
  | nil => exact spans_skip
  | cons c cs ih =>
    cases cs with
    | nil =>
      simp only [literalNode, spans_take, CharSet.contains_single]
      constructor
      · rintro ⟨d, rfl, rfl, rfl⟩
        exact ⟨rfl, rfl⟩
      · rintro ⟨rfl, rfl⟩
        exact ⟨c, rfl, rfl, rfl⟩
    | cons d cs =>
      simp only [literalNode, spans_seq, spans_take, CharSet.contains_single, ih]
      constructor
      · rintro ⟨x, as, y, bs, ⟨e, rfl, rfl, rfl⟩, ⟨rfl, rfl⟩, rfl, rfl⟩
        exact ⟨rfl, rfl⟩
      · rintro ⟨rfl, rfl⟩
        exact ⟨[c], [], d :: cs, [], ⟨c, rfl, rfl, rfl⟩, ⟨rfl, rfl⟩, rfl, rfl⟩

/-! ## Rounds -/

/-- Whether a text consists of pieces that satisfy `L`. -/
inductive Rounds (L : Text → Prop) : Text → Prop where
  | nil : Rounds L []
  | cons {x y : Text} : L x → Rounds L y → Rounds L (x ++ y)

/-- Rounds of a node that captures nothing. -/
theorem spans_loop {L : Text → Prop} (hne : ∀ x, L x → x ≠ [])
    (hn : ∀ pre mid post gs, NodeSpans n pre mid post gs ↔ L mid ∧ gs = []) :
    NodeSpans (.loop place greedy n) pre mid post gs ↔ Rounds L mid ∧ gs = [] := by
  constructor
  · intro h
    generalize hm : Node.loop place greedy n = m at h
    induction h with
    | leave => exact ⟨.nil, rfl⟩
    | round _ hx _ _ ih =>
      cases hm
      obtain ⟨hfirst, rfl⟩ := (hn _ _ _ _).1 hx
      obtain ⟨hothers, rfl⟩ := ih rfl
      exact ⟨.cons hfirst hothers, rfl⟩
    | _ => cases hm
  · rintro ⟨h, rfl⟩
    induction h generalizing pre with
    | nil => exact .leave
    | @cons x y hx _ ih => exact .round (hne x hx) ((hn _ _ _ []).2 ⟨hx, rfl⟩) ih

/-- Rounds of a node that captures nothing, at least one. -/
theorem spans_again {L : Text → Prop} (hne : ∀ x, L x → x ≠ [])
    (hn : ∀ pre mid post gs, NodeSpans n pre mid post gs ↔ L mid ∧ gs = []) :
    NodeSpans (.again place greedy n) pre mid post gs
      ↔ ∃ x y, L x ∧ Rounds L y ∧ mid = x ++ y ∧ gs = [] := by
  constructor
  · intro h
    generalize hm : Node.again place greedy n = m at h
    induction h with
    | once hx =>
      cases hm
      obtain ⟨hfirst, rfl⟩ := (hn _ _ _ _).1 hx
      exact ⟨_, [], hfirst, .nil, (List.append_nil _).symm, rfl⟩
    | further _ hx _ _ ih =>
      cases hm
      obtain ⟨hfirst, rfl⟩ := (hn _ _ _ _).1 hx
      obtain ⟨y, z, hy, hz, rfl, rfl⟩ := ih rfl
      exact ⟨_, _, hfirst, .cons hy hz, rfl, rfl⟩
    | _ => cases hm
  · rintro ⟨x, y, hx, hy, rfl, rfl⟩
    induction hy generalizing pre x with
    | nil =>
      rw [List.append_nil]
      exact .once ((hn _ _ _ _).2 ⟨hx, rfl⟩)
    | @cons y z hy _ ih => exact .further (hne x hx) ((hn _ _ _ []).2 ⟨hx, rfl⟩) (ih y hy)

theorem rounds_single {s : CharSet} :
    Rounds (fun x => ∃ c, s.contains c = true ∧ x = [c]) mid ↔ ∀ c ∈ mid, s.contains c = true := by
  constructor
  · intro h
    induction h with
    | nil => simp
    | cons hx _ ih =>
      obtain ⟨c, hc, rfl⟩ := hx
      simpa [hc] using ih
  · intro h
    induction mid with
    | nil => exact .nil
    | cons c mid ih =>
      exact .cons (x := [c]) ⟨c, h c List.mem_cons_self, rfl⟩
        (ih fun d hd => h d (List.mem_cons_of_mem c hd))

/-- Any number of characters of a set. -/
theorem spans_many {s : CharSet} : NodeSpans (.loop place greedy (.take s)) pre mid post gs
    ↔ (∀ c ∈ mid, s.contains c = true) ∧ gs = [] := by
  rw [← rounds_single]
  refine spans_loop (by rintro _ ⟨c, -, rfl⟩; simp) fun _ _ _ _ => ?_
  simp only [spans_take, ← exists_and_right, and_assoc]

/-- At least one character of a set. -/
theorem spans_some {s : CharSet} : NodeSpans (.again place greedy (.take s)) pre mid post gs
    ↔ mid ≠ [] ∧ (∀ c ∈ mid, s.contains c = true) ∧ gs = [] := by
  rw [spans_again (L := fun x => ∃ c, s.contains c = true ∧ x = [c]) (by rintro _ ⟨c, -, rfl⟩; simp)
    fun _ _ _ _ => by simp only [spans_take, ← exists_and_right, and_assoc]]
  constructor
  · rintro ⟨x, y, ⟨c, hc, rfl⟩, hy, rfl, rfl⟩
    exact ⟨by simp, by simpa [hc] using rounds_single.1 hy, rfl⟩
  · rintro ⟨hne, hall, rfl⟩
    cases mid with
    | nil => exact absurd rfl hne
    | cons c mid =>
      exact ⟨[c], mid, ⟨c, hall c List.mem_cons_self, rfl⟩,
        rounds_single.2 fun d hd => hall d (List.mem_cons_of_mem c hd), rfl, rfl⟩

/-! ## A node and what follows it -/

theorem spans_literal_seq {cs : Text} : NodeSpans (.seq (literalNode cs) n) pre mid post gs
    ↔ ∃ y, mid = cs ++ y ∧ NodeSpans n (pre ++ cs) y post gs := by
  simp only [spans_seq, spans_literal]
  constructor
  · rintro ⟨_, _, y, bs, ⟨rfl, rfl⟩, hy, rfl, rfl⟩
    exact ⟨y, rfl, by simpa using hy⟩
  · rintro ⟨y, rfl, hy⟩
    exact ⟨cs, [], y, gs, ⟨rfl, rfl⟩, hy, rfl, by simp⟩

theorem spans_take_seq {s : CharSet} : NodeSpans (.seq (.take s) n) pre mid post gs
    ↔ ∃ c y, s.contains c = true ∧ mid = c :: y ∧ NodeSpans n (pre ++ [c]) y post gs := by
  simp only [spans_seq, spans_take]
  constructor
  · rintro ⟨_, _, y, bs, ⟨c, hc, rfl, rfl⟩, hy, rfl, rfl⟩
    exact ⟨c, y, hc, rfl, by simpa using hy⟩
  · rintro ⟨c, y, hc, rfl, hy⟩
    exact ⟨[c], [], y, gs, ⟨c, hc, rfl, rfl⟩, hy, rfl, by simp⟩

theorem spans_many_seq {s : CharSet} :
    NodeSpans (.seq (.loop place greedy (.take s)) n) pre mid post gs
      ↔ ∃ x y, (∀ c ∈ x, s.contains c = true) ∧ mid = x ++ y ∧ NodeSpans n (pre ++ x) y post gs := by
  simp only [spans_seq, spans_many]
  constructor
  · rintro ⟨x, _, y, bs, ⟨hx, rfl⟩, hy, rfl, rfl⟩
    exact ⟨x, y, hx, rfl, by simpa using hy⟩
  · rintro ⟨x, y, hx, rfl, hy⟩
    exact ⟨x, [], y, gs, ⟨hx, rfl⟩, hy, rfl, by simp⟩

theorem spans_some_seq {s : CharSet} :
    NodeSpans (.seq (.again place greedy (.take s)) n) pre mid post gs
      ↔ ∃ x y, x ≠ [] ∧ (∀ c ∈ x, s.contains c = true) ∧ mid = x ++ y
        ∧ NodeSpans n (pre ++ x) y post gs := by
  simp only [spans_seq, spans_some]
  constructor
  · rintro ⟨x, _, y, bs, ⟨hne, hx, rfl⟩, hy, rfl, rfl⟩
    exact ⟨x, y, hne, hx, rfl, by simpa using hy⟩
  · rintro ⟨x, y, hne, hx, rfl, hy⟩
    exact ⟨x, [], y, gs, ⟨hne, hx, rfl⟩, hy, rfl, by simp⟩

theorem spans_check_seq {l : Look} : NodeSpans (.seq (.check l) n) pre mid post gs
    ↔ looksAt l pre (mid ++ post) ∧ NodeSpans n pre mid post gs := by
  simp only [spans_seq, spans_check]
  constructor
  · rintro ⟨_, _, y, bs, ⟨hlook, rfl, rfl⟩, hy, rfl, rfl⟩
    exact ⟨hlook, by simpa using hy⟩
  · rintro ⟨hlook, h⟩
    exact ⟨[], [], mid, gs, ⟨hlook, rfl, rfl⟩, by simpa using h, rfl, by simp⟩

theorem spans_group_seq {i : Nat} : NodeSpans (.seq (.group i m) n) pre mid post gs
    ↔ ∃ x hs y gs', NodeSpans m pre x (y ++ post) hs ∧ mid = x ++ y ∧ gs = gs' ++ (i, x) :: hs
      ∧ NodeSpans n (pre ++ x) y post gs' := by
  simp only [spans_seq, spans_group]
  constructor
  · rintro ⟨x, _, y, gs', ⟨hs, hx, rfl⟩, hy, rfl, rfl⟩
    exact ⟨x, hs, y, gs', hx, rfl, rfl, hy⟩
  · rintro ⟨x, hs, y, gs', hx, rfl, rfl, hy⟩
    exact ⟨x, _, y, gs', ⟨hs, hx, rfl⟩, hy, rfl, rfl⟩

end SourceMend.Pattern
