import SourceMend.Proofs.Builtin.Parts

/-!
# Calls with type arguments

The parts that the rules for the static functions of `Promise` look for.
-/

namespace SourceMend.Catalog.Builtin

open Pattern Rule Unicode

variable {pre mid post s t o u v m out : Text} {fixes : Nat}

/-- The functions of `Promise` that are called on it. -/
def functions : List Text := "resolve".toList :: statics

theorem not_mem_of_functions : ∀ f ∈ functions, ∀ c ∈ ['P', 'h', '(', ')', '<', '>', '.', ' ', '!', '='],
    c ∉ f := by decide

theorem functions_ne_nil : ∀ f ∈ functions, f ≠ [] := by decide

/-- A call of one of the static functions `fs` of `Promise`, with type arguments on `Promise`. -/
def Calls (fs : List Text) (o : Text) : Prop := ∃ x, ∃ f ∈ fs, PromiseCall x f o

theorem nested_chars {x : Text} {inside : Bool} (h : Nested inside x) : '(' ∉ x ∧ ')' ∉ x := by
  induction x generalizing inside with
  | nil => exact ⟨List.not_mem_nil, List.not_mem_nil⟩
  | cons c x ih =>
    have hc : '(' ≠ c ∧ ')' ≠ c := by
      constructor
      · rintro rfl
        exact absurd h (by simp [Nested, contains_arguments])
      · rintro rfl
        exact absurd h (by simp [Nested, contains_arguments])
    have hx : ∃ inside, Nested inside x := by
      simp only [Nested] at h
      split at h
      · exact ⟨_, h.2⟩
      · split at h
        · exact ⟨_, h.2⟩
        · exact ⟨_, h.2⟩
    obtain ⟨_, hx⟩ := hx
    exact ⟨List.not_mem_cons_of_ne_of_not_mem hc.1 (ih hx).1,
      List.not_mem_cons_of_ne_of_not_mem hc.2 (ih hx).2⟩

/-- Type arguments with another text in the place of one of their characters. -/
theorem Nested.replace {c : Char} (hc : arguments.contains c = true) (hm : All arguments m)
    {y z : Text} {inside : Bool} (h : Nested inside (y ++ c :: z)) : Nested inside (y ++ (m ++ z)) := by
  induction y generalizing inside with
  | nil => exact (nested_append hm).2 ((nested_append (List.forall_mem_singleton.2 hc)).1 h)
  | cons d y ih =>
    simp only [List.cons_append, Nested] at h ⊢
    split
    next hd =>
      rw [if_pos hd] at h
      exact ⟨h.1, ih h.2⟩
    next hd =>
      rw [if_neg hd] at h
      split
      next hd' =>
        rw [if_pos hd'] at h
        exact ⟨h.1, ih h.2⟩
      next hd' =>
        rw [if_neg hd'] at h
        exact ⟨h.1, ih h.2⟩

section

variable {fs : List Text} (hfs : ∀ f ∈ fs, f ∈ functions)

include hfs

/-- What the proofs below use of a call. -/
theorem Calls.shape (ho : Calls fs o) :
    ∃ y c, o = 'P' :: 'r' :: (y ++ [c, '(']) ∧ '(' ∉ y ++ [c] ∧ ')' ∉ y ++ [c] ∧ c ∉ ['h', ' ', '(']
      ∧ '<' ∈ y := by
  obtain ⟨x, f, hf, ⟨hx, rfl⟩⟩ := ho
  obtain ⟨hopen, hclose⟩ := nested_chars hx
  have hchars := not_mem_of_functions f (hfs f hf)
  rcases List.eq_nil_or_concat f with rfl | ⟨g, c, rfl⟩
  · exact absurd rfl (functions_ne_nil _ (hfs _ hf))
  · refine ⟨"omise<".toList ++ (x ++ '>' :: '.' :: g), c, by simp, ?_, ?_, ?_, by simp⟩
    · simpa [hopen] using hchars '(' (by decide)
    · simpa [hclose] using hchars ')' (by decide)
    · intro hc
      refine hchars c ?_ (by simp)
      exact (show ['h', ' ', '('] ⊆ ['P', 'h', '(', ')', '<', '>', '.', ' ', '!', '='] by decide) hc

theorem aside_calls : Aside (Calls fs) where
  opens ho := by
    obtain ⟨y, c, rfl, hopen, -⟩ := ho.shape hfs
    have hinner := not_mem_inner (a := 'P') (z := '(') (y := 'r' :: (y ++ [c])) (c := '(')
      (by simpa using hopen)
    simpa using hinner
  closes ho := by
    obtain ⟨y, c, rfl, -, hclose, -⟩ := ho.shape hfs
    have hinner := not_mem_inner (a := 'P') (z := '(') (y := 'r' :: (y ++ [c])) (c := ')')
      (by simpa using hclose)
    simpa using hinner
  plain ho hm h := by
    obtain ⟨y, c, rfl, -, -, -, hangle⟩ := ho.shape hfs
    simpa [hm.angle] using h.subset (show '<' ∈ _ by simp [hangle])
  arrow ho h := by
    obtain ⟨y, c, rfl, -⟩ := ho.shape hfs
    exact infix_of_first_two (u := [')', ' ']) (by decide) h
  keyword ho h := by
    obtain ⟨y, c, rfl, -, -, hc, -⟩ := ho.shape hfs
    exact infix_of_last_two (p := 'P' :: 'r' :: y) hc h

theorem Calls.last (ho : Calls fs o) :
    o ≠ [] ∧ '(' ∉ o.dropLast := by
  obtain ⟨y, c, rfl, hopen, -⟩ := ho.shape hfs
  have hcut : 'P' :: 'r' :: (y ++ [c, '(']) = ('P' :: 'r' :: (y ++ [c])) ++ ['('] := by simp
  rw [hcut, List.dropLast_concat]
  exact ⟨by simp, by simpa using hopen⟩

/-! ## Rules that make none -/

/-- In a call, a blank or an exclamation mark is part of the type arguments. -/
theorem Calls.replace {c : Char} {p q : Text} (hc : c ∈ [' ', '!']) (hm : All arguments m)
    (h : Calls fs (p ++ c :: q)) : Calls fs (p ++ (m ++ q)) := by
  obtain ⟨x, f, hf, hx, heq⟩ := h
  have hchars : ∀ c ∈ [' ', '!'], arguments.contains c = true ∧ c ∉ "Promise<".toList
      ∧ c ∉ ['>', '.', '('] ∧ c ∈ ['P', 'h', '(', ')', '<', '>', '.', ' ', '!', '='] := by decide
  obtain ⟨hargument, hopen, hclose, hmem⟩ := hchars c hc
  have hfunction := not_mem_of_functions f (hfs f hf) c hmem
  have hend : c ∉ '>' :: '.' :: (f ++ ['(']) := by
    simp only [List.mem_cons, List.mem_append, List.not_mem_nil, or_false] at hclose ⊢
    tauto
  obtain ⟨y, z, rfl, rfl, rfl⟩ := Text.middle_of_append heq hopen hend
  exact ⟨y ++ (m ++ z), f, hf, hx.replace hargument hm, by simp⟩

theorem keeps_calls {c : Char} {a b : Text} (hc : c ∈ [' ', '!']) (hm : All arguments m) :
    Keeps (Calls fs) (a ++ (m ++ b)) (a ++ c :: b) := by
  refine keeps_of_infix fun {u v o} ho h => ?_
  rcases Text.infix_append_cons (x := u ++ a) (y := b ++ v) (by simpa using h) with
    h | h | ⟨p, q, rfl, ⟨u', hu⟩, ⟨v', hv⟩⟩
  · exact ⟨o, ho, h.trans ⟨[], m ++ (b ++ v), by simp⟩⟩
  · exact ⟨o, ho, h.trans ⟨u ++ (a ++ m), [], by simp⟩⟩
  · refine ⟨p ++ (m ++ q), ho.replace hfs hc hm, u', v', ?_⟩
    calc u' ++ (p ++ (m ++ q)) ++ v' = (u' ++ p) ++ (m ++ (q ++ v')) := by simp
      _ = u ++ (a ++ (m ++ b) ++ v) := by rw [hu, hv]; simp

theorem keeps_calls_of_repeatedCast (h : repeatedCast.Replaces pre mid post t) :
    Keeps (Calls fs) mid t := by
  obtain ⟨⟨m, hm, rfl⟩, rfl⟩ := replaces_repeatedCast_middle h
  exact keeps_calls hfs (c := ' ') (a := "as".toList) (b := "any".toList) (by decide) hm

theorem keeps_calls_of_stackedBangs (h : stackedBangs.Replaces pre mid post t) :
    Keeps (Calls fs) mid t := by
  obtain ⟨c, x, ⟨-, -, hx, rfl⟩, rfl⟩ := replaces_stackedBangs h
  have hm : All arguments ('!' :: x) := by
    refine List.forall_mem_cons.2 ⟨by decide, fun d hd => ?_⟩
    rw [hx d hd]
    decide
  exact keeps_calls hfs (c := '!') (a := [c]) (b := ['.']) (by decide) hm

theorem keeps_calls_of_optionalAssignment (h : optionalAssignment.Replaces pre mid post t) :
    Keeps (Calls fs) mid t := by
  obtain ⟨a, z, y, -, rfl, rfl⟩ := optionalAssignment_cut h
  have hm : All arguments ['?'] := by decide
  simpa using keeps_calls hfs (c := '!') (a := a ++ [z]) (b := '.' :: y) (by decide) hm

/-- No call ends with a call without type arguments. -/
theorem Calls.infix_of_plain {f : Text} (ho : Calls fs o) (hf : f ∈ functions)
    (h : o <:+: u ++ ("Promise.".toList ++ (f ++ ['(']))) : o <:+: u := by
  obtain ⟨x, g, hg, hx, rfl⟩ := ho
  have hangle : '<' ∉ "Promise.".toList ++ (f ++ ['(']) := by
    have hfunction := not_mem_of_functions f hf '<' (by decide)
    simp [hfunction]
  rcases List.infix_append_iff_ne_nil.1 h with h | h | ⟨p, q, hp, hq, hpq, ⟨u', rfl⟩, ⟨v', hv⟩⟩
  · exact h
  · exact absurd (h.subset (by simp)) hangle
  · rcases List.eq_nil_or_concat q with rfl | ⟨q, d, rfl⟩
    · exact absurd rfl hq
    · have hends : "Promise<".toList ++ (x ++ '>' :: '.' :: g) ++ ['('] = p ++ q ++ [d] := by
        simpa using hpq
      obtain ⟨hcut, hd⟩ := List.append_inj' hends rfl
      obtain rfl : '(' = d := by simpa using hd
      have hopen : '(' ∉ "Promise.".toList ++ f := by
        have hfunction := not_mem_of_functions f hf '(' (by decide)
        simp [hfunction]
      rcases List.eq_nil_or_concat v' with rfl | ⟨v', d, rfl⟩
      · have hv : q ++ ['('] = "Promise.".toList ++ f ++ ['('] := by simpa using hv
        have hq' : q = "Promise.".toList ++ f := (List.append_inj' hv rfl).1
        have hdots : ("Promise<".toList ++ (x ++ ['>'])) ++ '.' :: g
            = (p ++ "Promise".toList) ++ '.' :: f := by
          rw [hq'] at hcut
          simpa using hcut
        have hlast := (Text.cut_last hdots (not_mem_of_functions g (hfs g hg) '.' (by decide))
          (not_mem_of_functions f hf '.' (by decide))).1
        have hlast : "Promise<".toList ++ x ++ ['>'] = p ++ "Promis".toList ++ ['e'] := by
          simpa using hlast
        exact absurd (List.append_inj' hlast rfl).2 (by decide)
      · have hv : q ++ '(' :: v' ++ [d] = "Promise.".toList ++ f ++ ['('] := by simpa using hv
        exact absurd ((List.append_inj' hv rfl).1 ▸ by simp) hopen

/-- A call without type arguments makes no call with them. -/
theorem keeps_calls_of_call {f : Text} (hf : f ∈ functions) :
    Keeps (Calls fs) mid ("Promise.".toList ++ (f ++ ['('])) := by
  refine keeps_of_infix fun {u v o} ho h => ⟨o, ho, ?_⟩
  have hlast : '(' ∉ o.dropLast := by
    obtain ⟨x, g, hg, hx, rfl⟩ := ho
    have hfunction := not_mem_of_functions g (hfs g hg) '(' (by decide)
    have hcut : "Promise<".toList ++ (x ++ '>' :: '.' :: (g ++ ['(']))
        = "Promise<".toList ++ (x ++ '>' :: '.' :: g) ++ ['('] := by simp
    rw [hcut, List.dropLast_concat]
    simp [hfunction, (nested_chars hx).1]
  rcases Text.infix_of_last (x := u ++ ("Promise.".toList ++ f)) (y := v) hlast (by simpa using h) with
    h | h
  · exact (ho.infix_of_plain hfs hf (by simpa using h)).trans ⟨[], mid ++ v, rfl⟩
  · exact h.trans ⟨u ++ mid, [], by simp⟩

theorem free_append_call {f : Text} (hf : f ∈ functions) (hfree : Free (Calls fs) u) :
    Free (Calls fs) (u ++ ("Promise.".toList ++ (f ++ ['(']))) := by
  have hkeeps : Keeps (Calls fs) [] ("Promise.".toList ++ (f ++ ['('])) := keeps_calls_of_call hfs hf
  simpa using hkeeps u [] (by simpa using hfree)

end

/-! ## What the rules leave -/

theorem finds_resolves : promiseResolve.Finds (Calls ["resolve".toList]) := by
  intro pre mid post
  constructor
  · rintro ⟨gs, h⟩
    obtain ⟨⟨x, hx⟩, -⟩ := spans_promiseResolve.1 h
    exact ⟨x, _, List.mem_singleton_self _, hx⟩
  · rintro ⟨x, f, hf, hx⟩
    obtain rfl := List.mem_singleton.1 hf
    exact ⟨[], spans_promiseResolve.2 ⟨⟨x, hx⟩, rfl⟩⟩

theorem finds_statics : promiseStatic.Finds (Calls statics) := by
  intro pre mid post
  constructor
  · rintro ⟨gs, h⟩
    obtain ⟨x, f, hf, hx, -⟩ := spans_promiseStatic.1 h
    exact ⟨x, f, hf, hx⟩
  · rintro ⟨x, f, hf, hx⟩
    exact ⟨_, spans_promiseStatic.2 ⟨x, f, hf, hx, rfl⟩⟩

theorem free_resolves (h : Rewrites promiseResolve [] s out fixes) :
    Free (Calls ["resolve".toList]) out := by
  have hfs : ∀ f ∈ ["resolve".toList], f ∈ functions := by decide
  refine h.clears_of_last finds_resolves (fun ho => ho.last hfs) fun hreplaces => ?_
  obtain ⟨-, rfl⟩ := replaces_promiseResolve hreplaces
  exact ⟨⟨"Promise.resolve".toList, by decide⟩, free_append_call hfs (by decide)⟩

theorem free_statics (h : Rewrites promiseStatic [] s out fixes) : Free (Calls statics) out := by
  have hfs : ∀ f ∈ statics, f ∈ functions := fun f => List.mem_cons_of_mem _
  refine h.clears_of_last finds_statics (fun ho => ho.last hfs) fun hreplaces => ?_
  obtain ⟨x, f, hf, -, rfl⟩ := replaces_promiseStatic hreplaces
  exact ⟨⟨"Promise.".toList ++ f, by simp⟩, free_append_call hfs (hfs f hf)⟩

end SourceMend.Catalog.Builtin
