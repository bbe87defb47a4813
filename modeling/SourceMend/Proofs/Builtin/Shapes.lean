import SourceMend.Proofs.Builtin.Characters
import SourceMend.Proofs.Pattern.Shapes

/-!
# What the built-in patterns match

For each built-in pattern the texts that it matches, with their groups.
-/

namespace SourceMend.Catalog.Builtin

open Pattern Unicode

variable {pre mid post : Text} {gs : Captures}

/-! ## Blanks and semicolons -/

theorem spans_trailingBlanks : NodeSpans trailingBlanksExpr.node pre mid post gs
    ↔ mid ≠ [] ∧ All lineBlanks mid ∧ looksAt .anyLineEnd (pre ++ mid) post ∧ gs = [] := by
  change NodeSpans (.seq (.again 0 true (.take lineBlanks)) (.check .anyLineEnd)) _ _ _ _ ↔ _
  simp only [spans_some_seq, spans_check]
  constructor
  · rintro ⟨x, _, hne, hall, rfl, hlook, rfl, rfl⟩
    simpa using ⟨hne, hall, hlook⟩
  · rintro ⟨hne, hall, hlook, rfl⟩
    exact ⟨mid, [], hne, hall, by simp, hlook, rfl, rfl⟩

/-- At least two of a character. -/
theorem spans_twice {c : Char} {place : Nat} :
    NodeSpans (.seq (.take (.single c)) (.again place true (.take (.single c)))) pre mid post gs
      ↔ ∃ x, x ≠ [] ∧ (∀ d ∈ x, d = c) ∧ mid = c :: x ∧ gs = [] := by
  simp only [spans_take_seq, spans_some, CharSet.contains_single]
  constructor
  · rintro ⟨_, x, rfl, rfl, hne, hx, rfl⟩
    exact ⟨x, hne, hx, rfl, rfl⟩
  · rintro ⟨x, hne, hx, rfl, rfl⟩
    exact ⟨c, x, rfl, rfl, hne, hx, rfl⟩

/-- Semicolons, at least two, with blanks after them. -/
structure Semicolons (x w mid : Text) : Prop where
  ne_nil : x ≠ []
  semicolons : ∀ c ∈ x, c = ';'
  blanks : All lineBlanks w
  eq : mid = ';' :: (x ++ w)

theorem spans_semicolons : NodeSpans semicolonsExpr.node pre mid post gs
    ↔ (∃ x w, Semicolons x w mid) ∧ looksAt .anyLineEnd (pre ++ mid) post ∧ gs = [] := by
  change NodeSpans (.seq (.seq (.take (.single ';')) (.again 0 true (.take (.single ';'))))
    (.seq (.loop 1 true (.take lineBlanks)) (.check .anyLineEnd))) _ _ _ _ ↔ _
  simp only [spans_seq (m := .seq _ _), spans_twice, spans_many_seq, spans_check]
  constructor
  · rintro ⟨_, _, _, _, ⟨x, hne, hx, rfl, rfl⟩, ⟨w, _, hw, rfl, hlook, rfl, rfl⟩, rfl, rfl⟩
    exact ⟨⟨x, w, hne, hx, hw, by simp⟩, by simpa using hlook, rfl⟩
  · rintro ⟨⟨x, w, hne, hx, hw, rfl⟩, hlook, rfl⟩
    exact ⟨_, _, _, _, ⟨x, hne, hx, rfl, rfl⟩, ⟨w, [], hw, rfl, by simpa using hlook, rfl, rfl⟩,
      by simp, rfl⟩

/-! ## Optional assignments -/

/-- An assignment to an optional member, with the character after the equals sign. -/
structure OptionalAssignment (a b w : Text) (c : Char) (mid : Text) : Prop where
  object : a ≠ [] ∧ All words a
  member : b ≠ [] ∧ All words b
  blanks : All blanks w
  assigned : c ≠ '=' ∧ c ≠ '>'
  eq : mid = a ++ '?' :: '.' :: (b ++ (w ++ ['=', c]))

theorem spans_optionalAssignment :
    NodeSpans (optionalAssignmentExpr words).node pre mid post gs
      ↔ ∃ a b w c, OptionalAssignment a b w c mid
        ∧ gs = [(4, [c]), (3, w), (2, b), (1, a)] := by
  change NodeSpans (.seq (.group 1 (.again 0 true (.take words))) (.seq (literalNode ['?', '.'])
    (.seq (.group 2 (.again 1 true (.take words))) (.seq (.group 3 (.loop 2 true (.take blanks)))
    (.seq (literalNode ['=']) (.group 4 (.take assigned))))))) _ _ _ _ ↔ _
  simp only [spans_group_seq, spans_literal_seq, spans_some, spans_many, spans_group, spans_take,
    contains_assigned]
  constructor
  · rintro ⟨a, _, _, _, ⟨hne, ha, rfl⟩, rfl, rfl, _, rfl, b, _, _, _, ⟨hne', hb, rfl⟩, rfl, rfl,
      w, _, _, _, ⟨hw, rfl⟩, rfl, rfl, _, rfl, _, ⟨c, hc, rfl, rfl⟩, rfl⟩
    exact ⟨a, b, w, c, ⟨⟨hne, ha⟩, ⟨hne', hb⟩, hw, hc, by simp⟩, rfl⟩
  · rintro ⟨a, b, w, c, ⟨⟨hne, ha⟩, ⟨hne', hb⟩, hw, hc, rfl⟩, rfl⟩
    exact ⟨a, _, _, _, ⟨hne, ha, rfl⟩, rfl, rfl, _, rfl, b, _, _, _, ⟨hne', hb, rfl⟩, rfl, rfl,
      w, _, _, _, ⟨hw, rfl⟩, rfl, rfl, _, rfl, _, ⟨c, hc, rfl, rfl⟩, rfl⟩

/-! ## Type arguments of promises -/

/-- Whether a text consists of type arguments with at most one more level of brackets, from inside
or outside such brackets on. -/
def Nested : Bool → Text → Prop
  | inside, [] => inside = false
  | inside, c :: r =>
    if c = '<' then inside = false ∧ Nested true r
    else if c = '>' then inside = true ∧ Nested false r
    else arguments.contains c = true ∧ Nested inside r

/-- Brackets with type arguments in and after them. -/
def Bracket (x : Text) : Prop :=
  ∃ a b, All arguments a ∧ All arguments b ∧ x = '<' :: (a ++ '>' :: b)

theorem ne_bracket_of_arguments {c : Char} (h : arguments.contains c = true) :
    c ≠ '<' ∧ c ≠ '>' := by
  rw [contains_arguments] at h
  simp at h
  exact ⟨h.1, h.2.1⟩

theorem nested_append {x y : Text} {inside : Bool} (hx : All arguments x) :
    Nested inside (x ++ y) ↔ Nested inside y := by
  induction x with
  | nil => rfl
  | cons c x ih =>
    obtain ⟨hc, hx⟩ := List.forall_mem_cons.1 hx
    obtain ⟨hopen, hclose⟩ := ne_bracket_of_arguments hc
    simp only [List.cons_append, Nested, hopen, hclose, if_false, hc, true_and, ih hx]

theorem nested_of_rounds {x : Text} (h : Rounds Bracket x) : Nested false x := by
  induction h with
  | nil => rfl
  | @cons x y hx _ ih =>
    obtain ⟨a, b, ha, hb, rfl⟩ := hx
    simp only [List.cons_append, List.append_assoc, Nested, if_true, true_and, nested_append ha]
    simpa [Nested, nested_append hb] using ih

/-- Type arguments in pieces, and inside of brackets after the brackets have been closed. -/
theorem pieces_of_nested {x : Text} :
    (Nested false x → ∃ a y, All arguments a ∧ Rounds Bracket y ∧ x = a ++ y)
      ∧ (Nested true x → ∃ a b y, All arguments a ∧ All arguments b ∧ Rounds Bracket y
        ∧ x = a ++ '>' :: (b ++ y)) := by
  induction x with
  | nil => exact ⟨fun _ => ⟨[], [], List.forall_mem_nil _, .nil, rfl⟩, fun h => by simp [Nested] at h⟩
  | cons c x ih =>
    constructor
    · intro h
      simp only [Nested] at h
      split at h
      next hc =>
        obtain ⟨a, b, y, ha, hb, hy, rfl⟩ := ih.2 h.2
        exact ⟨[], _, List.forall_mem_nil _, .cons ⟨a, b, ha, hb, rfl⟩ hy, by simp [hc]⟩
      next =>
        split at h
        next => simp at h
        next =>
          obtain ⟨a, y, ha, hy, rfl⟩ := ih.1 h.2
          exact ⟨c :: a, y, List.forall_mem_cons.2 ⟨h.1, ha⟩, hy, rfl⟩
    · intro h
      simp only [Nested] at h
      split at h
      next => simp at h
      next =>
        split at h
        next hc =>
          obtain ⟨a, y, ha, hy, rfl⟩ := ih.1 h.2
          exact ⟨[], a, y, List.forall_mem_nil _, ha, hy, by simp [hc]⟩
        next =>
          obtain ⟨a, b, y, ha, hb, hy, rfl⟩ := ih.2 h.2
          exact ⟨c :: a, b, y, List.forall_mem_cons.2 ⟨h.1, ha⟩, hb, hy, rfl⟩

theorem nested_iff {x : Text} :
    Nested false x ↔ ∃ a y, All arguments a ∧ Rounds Bracket y ∧ x = a ++ y := by
  constructor
  · exact pieces_of_nested.1
  · rintro ⟨a, y, ha, hy, rfl⟩
    exact (nested_append ha).2 (nested_of_rounds hy)

/-- A call of a static function of `Promise` with type arguments on `Promise`. -/
structure PromiseCall (x f mid : Text) : Prop where
  arguments : Nested false x
  eq : mid = "Promise<".toList ++ (x ++ '>' :: '.' :: (f ++ ['(']))

/-- Rounds of brackets as the patterns of promises have them. -/
theorem spans_brackets {place i j : Nat} :
    NodeSpans (.loop place true (.seq (literalNode ['<']) (.seq (.loop i true (.take arguments))
      (.seq (literalNode ['>']) (.loop j true (.take arguments)))))) pre mid post gs
      ↔ Rounds Bracket mid ∧ gs = [] := by
  refine spans_loop (by rintro _ ⟨a, b, -, -, rfl⟩; simp) fun _ _ _ _ => ?_
  simp only [spans_literal_seq, spans_many_seq, spans_many]
  constructor
  · rintro ⟨_, rfl, a, _, ha, rfl, _, rfl, hb, rfl⟩
    exact ⟨⟨a, _, ha, hb, rfl⟩, rfl⟩
  · rintro ⟨⟨a, b, ha, hb, rfl⟩, rfl⟩
    exact ⟨_, rfl, a, _, ha, rfl, _, rfl, hb, rfl⟩

theorem spans_brackets_seq {n : Node CharSet Look} {place i j : Nat} :
    NodeSpans (.seq (.loop place true (.seq (literalNode ['<']) (.seq (.loop i true (.take arguments))
      (.seq (literalNode ['>']) (.loop j true (.take arguments)))))) n) pre mid post gs
      ↔ ∃ x y, Rounds Bracket x ∧ mid = x ++ y ∧ NodeSpans n (pre ++ x) y post gs := by
  simp only [spans_seq, spans_brackets]
  constructor
  · rintro ⟨x, _, y, _, ⟨hx, rfl⟩, hy, rfl, rfl⟩
    exact ⟨x, y, hx, rfl, by simpa using hy⟩
  · rintro ⟨x, y, hx, rfl, hy⟩
    exact ⟨x, [], y, gs, ⟨hx, rfl⟩, hy, rfl, by simp⟩

theorem spans_promiseResolve : NodeSpans promiseResolveExpr.node pre mid post gs
    ↔ (∃ x, PromiseCall x "resolve".toList mid) ∧ gs = [] := by
  change NodeSpans (.seq (literalNode "Promise<".toList) (.seq (.loop 0 true (.take arguments))
    (.seq (.loop 1 true (.seq (literalNode ['<']) (.seq (.loop 2 true (.take arguments))
      (.seq (literalNode ['>']) (.loop 3 true (.take arguments))))))
    (literalNode ">.resolve(".toList)))) _ _ _ _ ↔ _
  simp only [spans_literal_seq, spans_many_seq, spans_brackets_seq, spans_literal]
  constructor
  · rintro ⟨_, rfl, a, _, ha, rfl, y, _, hy, rfl, rfl, rfl⟩
    exact ⟨⟨a ++ y, nested_iff.2 ⟨a, y, ha, hy, rfl⟩, by simp⟩, rfl⟩
  · rintro ⟨⟨x, hx, rfl⟩, rfl⟩
    obtain ⟨a, y, ha, hy, rfl⟩ := nested_iff.1 hx
    exact ⟨_, rfl, a, _, ha, List.append_assoc .., y, _, hy, rfl, rfl, rfl⟩

/-- The static functions of `Promise` besides `resolve`. -/
def statics : List Text :=
  ["reject".toList, "allSettled".toList, "all".toList, "race".toList, "any".toList]

theorem spans_promiseStatic : NodeSpans promiseStaticExpr.node pre mid post gs
    ↔ ∃ x f, f ∈ statics ∧ PromiseCall x f mid ∧ gs = [(1, f)] := by
  change NodeSpans (.seq (literalNode "Promise<".toList) (.seq (.loop 0 true (.take arguments))
    (.seq (.loop 1 true (.seq (literalNode ['<']) (.seq (.loop 2 true (.take arguments))
      (.seq (literalNode ['>']) (.loop 3 true (.take arguments))))))
    (.seq (literalNode ['>', '.']) (.seq (.group 1 (.fork 4 (literalNode "reject".toList)
      (.fork 5 (literalNode "allSettled".toList) (.fork 6 (literalNode "all".toList)
      (.fork 7 (literalNode "race".toList) (literalNode "any".toList)))))) (literalNode ['('])))))) _ _ _ _
    ↔ _
  simp only [spans_literal_seq, spans_many_seq, spans_brackets_seq, spans_group_seq, spans_fork,
    spans_literal]
  have hstatics (f : Text) (hs : Captures) : ((f = "reject".toList ∧ hs = []) ∨
      (f = "allSettled".toList ∧ hs = []) ∨ (f = "all".toList ∧ hs = []) ∨
      (f = "race".toList ∧ hs = []) ∨ (f = "any".toList ∧ hs = [])) ↔ f ∈ statics ∧ hs = [] := by
    simp only [statics, List.mem_cons, List.not_mem_nil, or_false, or_and_right]
  simp only [hstatics]
  constructor
  · rintro ⟨_, rfl, a, _, ha, rfl, y, _, hy, rfl, _, rfl, f, _, _, _, ⟨hf, rfl⟩, rfl, rfl, rfl, rfl⟩
    exact ⟨a ++ y, f, hf, ⟨nested_iff.2 ⟨a, y, ha, hy, rfl⟩, by simp⟩, rfl⟩
  · rintro ⟨x, f, hf, ⟨hx, rfl⟩, rfl⟩
    obtain ⟨a, y, ha, hy, rfl⟩ := nested_iff.1 hx
    exact ⟨_, rfl, a, _, ha, List.append_assoc .., y, _, hy, rfl, _, rfl, f, _, _, _, ⟨hf, rfl⟩, rfl,
      rfl, rfl, rfl⟩

/-! ## Casts -/

/-- Blanks and one more cast. -/
def Recast (x : Text) : Prop := ∃ w, w ≠ [] ∧ All blanks w ∧ x = w ++ "as any".toList

/-- Whether a position is a boundary of a word. -/
abbrev AtBoundary (pre post : Text) : Prop := looksAt (.word .boundary wordChars) pre post

theorem spans_recast {j : Nat} :
    NodeSpans (.seq (.again j true (.take blanks)) (literalNode "as any".toList)) pre mid post gs
      ↔ Recast mid ∧ gs = [] := by
  simp only [spans_some_seq, spans_literal]
  constructor
  · rintro ⟨w, _, hne, hw, rfl, rfl, rfl⟩
    exact ⟨⟨w, hne, hw, rfl⟩, rfl⟩
  · rintro ⟨⟨w, hne, hw, rfl⟩, rfl⟩
    exact ⟨w, _, hne, hw, rfl, rfl, rfl⟩

theorem spans_repeatedCast : NodeSpans repeatedCastExpr.node pre mid post gs
    ↔ ∃ x y, Recast x ∧ Rounds Recast y ∧ mid = "as any".toList ++ (x ++ y)
      ∧ AtBoundary pre (mid ++ post) ∧ AtBoundary (pre ++ mid) post ∧ gs = [] := by
  change NodeSpans (.seq (.check (.word .boundary wordChars)) (.seq (literalNode "as any".toList)
    (.seq (.again 0 true (.seq (.again 1 true (.take blanks)) (literalNode "as any".toList)))
    (.check (.word .boundary wordChars))))) _ _ _ _ ↔ _
  rw [spans_check_seq, spans_literal_seq]
  simp only [spans_seq, spans_check,
    spans_again (by rintro _ ⟨w, _, _, rfl⟩; simp) fun _ _ _ _ => spans_recast]
  constructor
  · rintro ⟨hbefore, _, rfl, _, _, _, _, ⟨x, y, hx, hy, rfl, rfl⟩, ⟨hafter, rfl, rfl⟩, rfl, rfl⟩
    exact ⟨x, y, hx, hy, by simp, hbefore, by simpa using hafter, rfl⟩
  · rintro ⟨x, y, hx, hy, rfl, hbefore, hafter, rfl⟩
    exact ⟨hbefore, _, rfl, _, _, [], _, ⟨x, y, hx, hy, rfl, rfl⟩, ⟨by simpa using hafter, rfl, rfl⟩,
      by simp, rfl⟩

/-! ## Exclamation marks -/

/-- Exclamation marks, at least two, between the end of an operand and a dot. -/
structure StackedBangs (c : Char) (x mid : Text) : Prop where
  operand : operandEnds.contains c = true
  ne_nil : x ≠ []
  bangs : ∀ d ∈ x, d = '!'
  eq : mid = c :: '!' :: (x ++ ['.'])

theorem spans_stackedBangs : NodeSpans (stackedBangsExpr operandEnds).node pre mid post gs
    ↔ ∃ c x, StackedBangs c x mid ∧ gs = [(1, [c])] := by
  change NodeSpans (.seq (.group 1 (.take operandEnds)) (.seq (.seq (.take (.single '!'))
    (.again 0 true (.take (.single '!')))) (literalNode ['.']))) _ _ _ _ ↔ _
  rw [spans_group_seq]
  simp only [spans_take, spans_seq (m := .seq _ _), spans_twice, spans_literal]
  constructor
  · rintro ⟨_, _, _, _, ⟨c, hc, rfl, rfl⟩, rfl, rfl, _, _, _, _, ⟨x, hne, hx, rfl, rfl⟩,
      ⟨rfl, rfl⟩, rfl, rfl⟩
    exact ⟨c, x, ⟨hc, hne, hx, by simp⟩, rfl⟩
  · rintro ⟨c, x, ⟨hc, hne, hx, rfl⟩, rfl⟩
    exact ⟨_, _, _, _, ⟨c, hc, rfl, rfl⟩, rfl, rfl, _, _, _, _, ⟨x, hne, hx, rfl, rfl⟩,
      ⟨rfl, rfl⟩, by simp, rfl⟩

/-! ## Assertions -/

/-- An assertion in angle brackets of a type `t` on `e`, in parentheses. -/
structure AngleAssertion (a t e b mid : Text) : Prop where
  before : All blanks a
  type : IsTypeName t
  operand : e ≠ [] ∧ All dottedWords e
  after : All blanks b
  eq : mid = '(' :: (a ++ '<' :: (t ++ '>' :: (e ++ (b ++ [')']))))

theorem spans_angleAssertion :
    NodeSpans (angleAssertionExpr words dottedWords).node pre mid post gs
    ↔ ∃ a t e b, AngleAssertion a t e b mid ∧ gs = [(2, e), (1, t)] := by
  change NodeSpans (.seq (literalNode ['(']) (.seq (.loop 0 true (.take blanks))
    (.seq (literalNode ['<']) (.seq (.group 1 (.seq (.take typeStarts) (.loop 1 true (.take words))))
    (.seq (literalNode ['>']) (.seq (.group 2 (.again 2 true (.take dottedWords)))
    (.seq (.loop 3 true (.take blanks)) (literalNode [')'])))))))) _ _ _ _ ↔ _
  simp only [spans_literal_seq, spans_many_seq, spans_group_seq, spans_take_seq, spans_many,
    spans_some, spans_literal]
  constructor
  · rintro ⟨_, rfl, a, _, ha, rfl, _, rfl, t, _, _, _, ⟨c, r, hc, rfl, hr, rfl⟩, rfl, rfl, _, rfl,
      e, _, _, _, ⟨hne, he, rfl⟩, rfl, rfl, b, _, hb, rfl, rfl, rfl⟩
    exact ⟨a, _, e, b, ⟨ha, ⟨c, r, hc, hr, rfl⟩, ⟨hne, he⟩, hb, by simp⟩, by simp⟩
  · rintro ⟨a, _, e, b, ⟨ha, ⟨c, r, hc, hr, rfl⟩, ⟨hne, he⟩, hb, rfl⟩, rfl⟩
    exact ⟨_, rfl, a, _, ha, rfl, _, rfl, _, _, _, _, ⟨c, r, hc, rfl, hr, rfl⟩, rfl, rfl, _, rfl,
      e, _, _, _, ⟨hne, he, rfl⟩, rfl, rfl, b, _, hb, rfl, rfl, rfl⟩

/-! ## Parameters -/

/-- A comma between blanks, and a name. -/
def NextName (x : Text) : Prop :=
  ∃ a b n, All blanks a ∧ All blanks b ∧ IsName n ∧ x = a ++ ',' :: (b ++ n)

/-- The parameters of an arrow function without types. -/
structure ArrowParameters (a l b c mid : Text) : Prop where
  before : All blanks a
  names : ∃ n r, IsName n ∧ Rounds NextName r ∧ l = n ++ r
  after : All blanks b
  arrow : All blanks c
  eq : mid = '(' :: (a ++ (l ++ (b ++ ')' :: (c ++ ['=', '>']))))

theorem spans_name {i : Nat} :
    NodeSpans (.seq (.take nameStarts) (.loop i true (.take words))) pre mid post gs
      ↔ IsName mid ∧ gs = [] := by
  simp only [spans_take_seq, spans_many]
  constructor
  · rintro ⟨c, r, hc, rfl, hr, rfl⟩
    exact ⟨⟨c, r, hc, hr, rfl⟩, rfl⟩
  · rintro ⟨⟨c, r, hc, hr, rfl⟩, rfl⟩
    exact ⟨c, r, hc, rfl, hr, rfl⟩

theorem spans_nextName {i j k : Nat} :
    NodeSpans (.seq (.loop i true (.take blanks)) (.seq (literalNode [','])
      (.seq (.loop j true (.take blanks)) (.seq (.take nameStarts) (.loop k true (.take words))))))
      pre mid post gs ↔ NextName mid ∧ gs = [] := by
  simp only [spans_many_seq, spans_literal_seq, spans_name]
  constructor
  · rintro ⟨a, _, ha, rfl, _, rfl, b, n, hb, rfl, hn, rfl⟩
    exact ⟨⟨a, b, n, ha, hb, hn, rfl⟩, rfl⟩
  · rintro ⟨⟨a, b, n, ha, hb, hn, rfl⟩, rfl⟩
    exact ⟨a, _, ha, rfl, _, rfl, b, n, hb, rfl, hn, rfl⟩

theorem spans_arrowParameters :
    NodeSpans (arrowParametersExpr words).node pre mid post gs
      ↔ ∃ a l b c, ArrowParameters a l b c mid ∧ gs = [(1, l)] := by
  change NodeSpans (.seq (literalNode ['(']) (.seq (.loop 0 true (.take blanks)) (.seq (.group 1
    (.seq (.take nameStarts) (.seq (.loop 1 true (.take words)) (.loop 2 true
      (.seq (.loop 3 true (.take blanks)) (.seq (literalNode [','])
      (.seq (.loop 4 true (.take blanks)) (.seq (.take nameStarts)
        (.loop 5 true (.take words))))))))))
    (.seq (.loop 6 true (.take blanks)) (.seq (literalNode [')'])
    (.seq (.loop 7 true (.take blanks)) (literalNode ['=', '>']))))))) _ _ _ _ ↔ _
  simp only [spans_literal_seq, spans_many_seq, spans_group_seq, spans_take_seq, spans_literal,
    spans_loop (by rintro _ ⟨a, b, n, _, _, _, rfl⟩; simp) fun _ _ _ _ => spans_nextName]
  constructor
  · rintro ⟨_, rfl, a, _, ha, rfl, _, _, _, _, ⟨c, _, hc, rfl, w, r, hw, rfl, hr, rfl⟩, rfl, rfl,
      b, _, hb, rfl, _, rfl, d, _, hd, rfl, rfl, rfl⟩
    exact ⟨a, _, b, d, ⟨ha, ⟨c :: w, r, ⟨c, w, hc, hw, rfl⟩, hr, rfl⟩, hb, hd, by simp⟩, rfl⟩
  · rintro ⟨a, _, b, d, ⟨ha, ⟨_, r, ⟨c, w, hc, hw, rfl⟩, hr, rfl⟩, hb, hd, rfl⟩, rfl⟩
    exact ⟨_, rfl, a, _, ha, rfl, _, _, _, _, ⟨c, _, hc, rfl, w, r, hw, rfl, hr, rfl⟩, rfl, rfl,
      b, _, hb, rfl, _, rfl, d, _, hd, rfl, rfl, rfl⟩

/-- The parameters of a route handler are parameters of an arrow function. -/
theorem arrowParameters_of_routeParameters (h : NodeSpans routeParametersExpr.node pre mid post gs) :
    ∃ a l b c, ArrowParameters a l b c mid := by
  change NodeSpans (.seq (literalNode ['(']) (.seq (.loop 0 true (.take blanks))
    (.seq (literalNode ['r', 'e', 'q']) (.seq (.loop 1 true (.take blanks)) (.seq (literalNode [','])
    (.seq (.loop 2 true (.take blanks)) (.seq (literalNode ['r', 'e', 's'])
    (.seq (.loop 3 true (.take blanks)) (.seq (literalNode [')'])
    (.seq (.loop 4 true (.take blanks)) (literalNode ['=', '>']))))))))))) _ _ _ _ at h
  simp only [spans_literal_seq, spans_many_seq, spans_literal] at h
  obtain ⟨_, rfl, a, _, ha, rfl, _, rfl, b, _, hb, rfl, _, rfl, c, _, hc, rfl, _, rfl,
    d, _, hd, rfl, _, rfl, e, _, he, rfl, rfl, rfl⟩ := h
  have hreq : IsName ['r', 'e', 'q'] := ⟨'r', ['e', 'q'], by decide, words_of_nameStarts (by decide), rfl⟩
  have hres : IsName ['r', 'e', 's'] := ⟨'r', ['e', 's'], by decide, words_of_nameStarts (by decide), rfl⟩
  refine ⟨a, ['r', 'e', 'q'] ++ ((b ++ ',' :: (c ++ ['r', 'e', 's'])) ++ []), d, e, ha,
    ⟨_, _, hreq, .cons ⟨b, c, _, hb, hc, hres, rfl⟩ .nil, rfl⟩, hd, he, by simp⟩

/-! ## Catch bindings -/

/-- The binding of a catch clause without a type. -/
structure CatchBinding (a b n c mid : Text) : Prop where
  keyword : All blanks a
  before : All blanks b
  name : IsName n
  after : All blanks c
  eq : mid = "catch".toList ++ (a ++ '(' :: (b ++ (n ++ (c ++ [')']))))

theorem spans_catchBinding : NodeSpans (catchBindingExpr words).node pre mid post gs
    ↔ ∃ a b n c, CatchBinding a b n c mid ∧ gs = [(1, n)] := by
  change NodeSpans (.seq (literalNode "catch".toList) (.seq (.loop 0 true (.take blanks))
    (.seq (literalNode ['(']) (.seq (.loop 1 true (.take blanks)) (.seq (.group 1
      (.seq (.take nameStarts) (.loop 2 true (.take words))))
    (.seq (.loop 3 true (.take blanks)) (literalNode [')']))))))) _ _ _ _ ↔ _
  simp only [spans_literal_seq, spans_many_seq, spans_group_seq, spans_name, spans_literal]
  constructor
  · rintro ⟨_, rfl, a, _, ha, rfl, _, rfl, b, _, hb, rfl, n, _, _, _, ⟨hn, rfl⟩, rfl, rfl,
      c, _, hc, rfl, rfl, rfl⟩
    exact ⟨a, b, n, c, ⟨ha, hb, hn, hc, by simp⟩, rfl⟩
  · rintro ⟨a, b, n, c, ⟨ha, hb, hn, hc, rfl⟩, rfl⟩
    exact ⟨_, rfl, a, _, ha, rfl, _, rfl, b, _, hb, rfl, n, _, _, _, ⟨hn, rfl⟩, rfl, rfl,
      c, _, hc, rfl, rfl, rfl⟩

end SourceMend.Catalog.Builtin
