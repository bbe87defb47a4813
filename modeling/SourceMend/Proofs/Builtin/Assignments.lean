import SourceMend.Proofs.Builtin.LineEnds

/-!
# Optional assignments

The value that the rule for optional assignments finds after an equals sign belongs to the match, so
where it is the object of another optional assignment, that one is left (`Chains`).
-/

namespace SourceMend.Catalog.Builtin

open Pattern Rule Unicode

variable {pre mid post s t o u v m p q out : Text} {L : Text → Prop} {x d e : Char} {fixes : Nat}

/-- An assignment to an optional member, from the last character of the object on. -/
def Assignments (o : Text) : Prop := ∃ x b w c, OptionalAssignment [x] b w c o

/-- Two assignments to optional members, where the value of the first is the object of the second
and has one character. -/
def Chains (o : Text) : Prop :=
  ∃ x b w o', words.contains x = true ∧ (b ≠ [] ∧ All words b) ∧ All blanks w ∧ Assignments o'
    ∧ o = x :: '?' :: '.' :: (b ++ (w ++ '=' :: o'))

/-- What the proofs below use of both. -/
structure Linked (x : Char) (y : Text) (d : Char) (o : Text) : Prop where
  object : words.contains x = true
  inner : ∀ c ∈ y, words.contains c = true ∨ blanks.contains c = true ∨ c ∈ ['?', '.', '=']
  gap : ¬ [' ', 'a'] <:+: o
  eq : o = x :: '?' :: (y ++ ['=', d])

theorem not_gap_member {b w : Text} (hx : words.contains x = true) (hb : All words b)
    (hw : All blanks w) : ¬ [' ', 'a'] <:+: x :: '?' :: '.' :: (b ++ w) := by
  intro h
  have h : [' '] ++ ['a'] <:+: x :: '?' :: '.' :: b :=
    Text.infix_left (y := w) (not_mem_of_blanks (by decide) hw) (by simpa using h)
  have hspace : ' ' ∉ x :: '?' :: '.' :: b := by
    have hxb := not_mem_of_words (List.forall_mem_cons.2 ⟨hx, hb⟩) ' ' (by decide)
    simpa using hxb
  exact hspace (h.subset (by simp))

theorem Assignments.linked (h : Assignments o) : ∃ x y d, Linked x y d o := by
  obtain ⟨x, b, w, c, ⟨-, hx⟩, ⟨-, hb⟩, hw, -, rfl⟩ := h
  have hx := hx x List.mem_cons_self
  refine ⟨x, '.' :: (b ++ w), c, hx, fun d hd => ?_, fun h => ?_, by simp⟩
  · rcases List.mem_cons.1 hd with rfl | hd
    · exact .inr (.inr (by decide))
    · exact (List.mem_append.1 hd).imp (hb d) fun hd => .inl (hw d hd)
  · rcases Text.infix_of_not_mem (o := [' ', 'a']) (c := '=') (x := x :: '?' :: '.' :: (b ++ w)) (y := [c]) (by decide)
      (by simpa using h) with h | h
    · exact not_gap_member hx hb hw h
    · exact absurd h.length_le (by simp)

theorem Chains.linked (h : Chains o) : ∃ x y d, Linked x y d o := by
  obtain ⟨x, b, w, o', hx, ⟨-, hb⟩, hw, ho', rfl⟩ := h
  obtain ⟨x', y, d, hx', hy, hgap, rfl⟩ := ho'.linked
  refine ⟨x, '.' :: (b ++ (w ++ '=' :: x' :: '?' :: y)), d, hx, fun c hc => ?_, fun h => ?_, by simp⟩
  · simp only [List.mem_cons, List.mem_append] at hc
    rcases hc with rfl | hc | hc | rfl | rfl | rfl | hc
    · exact .inr (.inr (by decide))
    · exact .inl (hb c hc)
    · exact .inr (.inl (hw c hc))
    · exact .inr (.inr (by decide))
    · exact .inl hx'
    · exact .inr (.inr (by decide))
    · exact hy c hc
  · rcases Text.infix_of_not_mem (o := [' ', 'a']) (c := '=') (x := x :: '?' :: '.' :: (b ++ w)) (by decide)
      (by simpa using h) with h | h
    · exact not_gap_member hx hb hw h
    · exact hgap h

theorem Linked.not_mem_dropLast {y : Text} (h : Linked x y d o) :
    ∀ c ∈ ['(', ')', '!', ';'], c ∉ o.dropLast := by
  obtain ⟨hx, hy, -, rfl⟩ := h
  have hchars : ∀ c ∈ ['(', ')', '!', ';'], c ∈ marks ∧ blanks.contains c = false
      ∧ c ∉ ['?', '.', '='] := by decide
  intro c hc
  obtain ⟨hmark, hblank, hne⟩ := hchars c hc
  have hword {c' : Char} (h : words.contains c' = true) : c ≠ c' := by
    rintro rfl
    exact not_words_of_mem_marks c hmark h
  have hinner : c ∉ y := by
    intro h
    rcases hy c h with h | h | h
    · exact hword h rfl
    · simp [h] at hblank
    · exact hne h
  have hcut : x :: '?' :: (y ++ ['=', d]) = (x :: '?' :: (y ++ ['='])) ++ [d] := by simp
  rw [hcut, List.dropLast_concat]
  simp only [List.mem_cons, List.not_mem_nil, or_false, not_or] at hne
  simp [hword hx, hinner, hne]

theorem Linked.not_mem {y : Text} (h : Linked x y d o) :
    ∀ c ∈ ['(', ')', '!', ';'], c ∉ o.tail.dropLast := by
  intro c hc hmem
  rw [← List.tail_dropLast] at hmem
  exact h.not_mem_dropLast c hc (List.mem_of_mem_tail hmem)

/-! ## Rules that make none -/

section

variable (hL : ∀ {o}, L o → ∃ x y d, Linked x y d o)

include hL

theorem aside_of_linked : Aside L where
  opens ho := by
    obtain ⟨x, y, d, h⟩ := hL ho
    exact h.not_mem _ (by decide)
  closes ho := by
    obtain ⟨x, y, d, h⟩ := hL ho
    exact h.not_mem _ (by decide)
  plain ho hm h := by
    obtain ⟨x, y, d, -, -, -, rfl⟩ := hL ho
    simpa [hm.question] using h.subset (show '?' ∈ _ by simp)
  arrow ho h := by
    obtain ⟨x, y, d, hx, -, -, rfl⟩ := hL ho
    have hnot : x ∉ [')', ' '] := by
      have hmarks : ∀ c ∈ [')', ' '], c ∈ marks := by decide
      exact fun h => not_words_of_mem_marks x (hmarks x h) hx
    exact Text.infix_right (x := [')', ' ']) hnot h
  keyword {_ u} ho h := by
    obtain ⟨x, y, d, -, -, -, rfl⟩ := hL ho
    exact infix_of_last_two (p := x :: '?' :: y) (u := u) (e := 'h') (v := [' ', '(']) (by decide) h

/-- A call without type arguments makes no assignment. -/
theorem keeps_linked_of_call {f x : Text} (hf : f ∈ functions) (hmid : PromiseCall x f mid) :
    Keeps L mid ("Promise.".toList ++ (f ++ ['('])) := by
  obtain ⟨-, rfl⟩ := hmid
  refine keeps_of_infix fun {u v o} ho h => ⟨o, ho, ?_⟩
  obtain ⟨x', y, d, hlinked⟩ := hL ho
  rcases Text.infix_of_ends (c := '(') (x := u ++ ("Promise.".toList ++ f)) (y := v)
    (hlinked.not_mem _ (by decide)) (by simpa using h) with h | h
  · obtain ⟨-, -, -, rfl⟩ := hlinked
    have hequals : '=' ∉ 'P' :: ("romise.".toList ++ (f ++ ['('])) := by
      have hfunction := not_mem_of_functions f hf '=' (by decide)
      simp [hfunction]
    have h := infix_of_last_two (p := x' :: '?' :: y) (d := d) (u := u) hequals (by simpa using h)
    exact List.IsInfix.trans (by simpa using h)
      ⟨[], "romise<".toList ++ (x ++ '>' :: '.' :: (f ++ '(' :: v)), by simp⟩
  · exact h.trans ⟨u ++ ("Promise<".toList ++ (x ++ '>' :: '.' :: f)), [], by simp⟩

theorem keeps_linked_of_repeatedCast (h : repeatedCast.Replaces pre mid post t) : Keeps L mid t := by
  obtain ⟨⟨m, -, rfl⟩, rfl⟩ := replaces_repeatedCast_middle h
  refine keeps_of_infix fun {u v o} ho hpart => ⟨o, ho, ?_⟩
  obtain ⟨x, y, d, -, -, hgap, heq⟩ := hL ho
  rcases Text.infix_append_cons (c := ' ') (x := u ++ "as".toList) (y := "any".toList ++ v)
    (by simpa using hpart) with h | h | ⟨p, q, rfl, ⟨u', hu⟩, ⟨v', hv⟩⟩
  · exact h.trans ⟨[], m ++ ("any".toList ++ v), by simp⟩
  · exact h.trans ⟨u ++ ("as".toList ++ m), [], by simp⟩
  · cases q with
    | nil =>
      have heq : p ++ [' '] = (x :: '?' :: y ++ ['=']) ++ [d] := by simpa using heq
      have hu : (u' ++ x :: '?' :: y) ++ ['='] = u ++ ['a'] ++ ['s'] := by
        rw [(List.append_inj' heq rfl).1] at hu
        simpa using hu
      exact absurd (List.append_inj' hu rfl).2 (by decide)
    | cons e q =>
      obtain ⟨rfl, -⟩ := List.cons.inj (show e :: (q ++ v') = 'a' :: 'n' :: 'y' :: v from hv)
      exact absurd ⟨p, q, by simp⟩ hgap

theorem keeps_linked_of_semicolons (h : semicolons.Replaces pre mid post t) : Keeps L mid t := by
  obtain ⟨⟨x, w, -, -, -, rfl⟩, -, rfl⟩ := replaces_semicolons h
  refine keeps_of_infix fun {u v o} ho hpart => ⟨o, ho, ?_⟩
  obtain ⟨_, y, d, hlinked⟩ := hL ho
  rcases Text.infix_of_last (x := u) (y := v) (hlinked.not_mem_dropLast ';' (by decide))
    (by simpa using hpart) with h | h
  · exact h.trans ⟨[], x ++ (w ++ v), by simp⟩
  · exact h.trans ⟨u ++ ';' :: (x ++ w), [], by simp⟩

end

/-! ## Blanks at the ends of lines -/

theorem not_mem_member {b : Text} (hx : words.contains x = true) (hb : All words b)
    (he : e ∈ ['\n', '\r']) : e ∉ x :: '?' :: '.' :: b := by
  have hends : ∀ e ∈ ['\n', '\r'], e ∈ marks ∧ e ≠ '?' ∧ e ≠ '.' := by decide
  obtain ⟨hmark, hquestion, hdot⟩ := hends e he
  have hxb := not_mem_of_words (List.forall_mem_cons.2 ⟨hx, hb⟩) e hmark
  simp only [List.mem_cons, not_or] at hxb ⊢
  exact ⟨hxb.1, hquestion, hdot, hxb.2⟩

/-- A line end lies in the blanks before an equals sign, or after the equals sign. -/
theorem lineEnd_cases {b w y : Text} (he : e ∈ ['\n', '\r']) (hx : words.contains x = true)
    (hb : All words b) (h : p ++ e :: q = x :: '?' :: '.' :: (b ++ (w ++ '=' :: y))) :
    (∃ a w', p = x :: '?' :: '.' :: (b ++ a) ∧ w = a ++ e :: w' ∧ q = w' ++ '=' :: y)
      ∨ ∃ a, p = x :: '?' :: '.' :: (b ++ (w ++ '=' :: a)) ∧ y = a ++ e :: q := by
  have hequals : ∀ e ∈ ['\n', '\r'], '=' ≠ e := by decide
  obtain ⟨a, rfl, hcut⟩ := Text.append_of_not_mem_left (p := x :: '?' :: '.' :: b)
    (y := w ++ '=' :: y) (by simpa using h) (not_mem_member hx hb he)
  rcases Text.cut_cases hcut (hequals e he) with ⟨w', rfl, rfl⟩ | ⟨a, rfl, rfl⟩
  · exact .inl ⟨a, w', by simp, rfl, rfl⟩
  · exact .inr ⟨a, by simp, rfl⟩

theorem blanks_insert {a w : Text} (hm : All lineBlanks m) (h : All blanks (a ++ e :: w)) :
    All blanks (a ++ (m ++ e :: w)) := by
  obtain ⟨ha, hw⟩ := List.forall_mem_append.1 h
  exact List.forall_mem_append.2 ⟨ha, List.forall_mem_append.2
    ⟨fun d hd => blank_of_lineBlank (hm d hd), hw⟩⟩

section

variable (he : e ∈ ['\n', '\r']) (hne : m ≠ []) (hm : All lineBlanks m)

include he hne hm

/-- An assignment with a line end is still one with blanks before that, at least up to them. -/
theorem Assignments.insert (h : Assignments (p ++ e :: q)) :
    ∃ o, Assignments o ∧ o <+: p ++ (m ++ e :: q) := by
  obtain ⟨x, b, w, c, hx, hb, hw, hc, heq⟩ := h
  rcases lineEnd_cases (y := [c]) he (hx.2 x List.mem_cons_self) hb.2 (by simpa using heq) with
    ⟨a, w, rfl, rfl, rfl⟩ | ⟨a, rfl, ha⟩
  · exact ⟨_, ⟨x, b, a ++ (m ++ e :: w), c, hx, hb, blanks_insert hm hw, hc, rfl⟩, by simp⟩
  · -- the line end is the value, and the first blank takes its place
    obtain ⟨rfl, rfl, rfl⟩ : a = [] ∧ c = e ∧ q = [] := by
      cases a with
      | nil => simpa [eq_comm] using ha
      | cons d a => simp at ha
    obtain ⟨d, m, rfl⟩ := List.exists_cons_of_ne_nil hne
    have hchars : ∀ c ∈ [' ', '\t'], c ≠ '=' ∧ c ≠ '>' := by decide
    have hd := hchars d (contains_lineBlanks.1 (hm d List.mem_cons_self))
    exact ⟨_, ⟨x, b, w, d, hx, hb, hw, hd, rfl⟩, m ++ [c], by simp⟩

theorem Chains.insert (h : Chains (p ++ e :: q)) : ∃ o, Chains o ∧ o <+: p ++ (m ++ e :: q) := by
  obtain ⟨x, b, w, o, hx, hb, hw, ho, heq⟩ := h
  rcases lineEnd_cases he hx hb.2 heq with ⟨a, w, rfl, rfl, rfl⟩ | ⟨a, rfl, rfl⟩
  · exact ⟨_, ⟨x, b, a ++ (m ++ e :: w), o, hx, hb, blanks_insert hm hw, ho, rfl⟩, by simp⟩
  · obtain ⟨o, ho, r, hr⟩ := ho.insert he hne hm
    exact ⟨_, ⟨x, b, w, o, hx, hb, hw, ho, rfl⟩, r, by simp [hr]⟩

end

/-- Taking blanks at the end of a line away makes no chain. -/
theorem free_chains_of_blanks (h : trailingBlanks.Replaces pre mid post t)
    (hfree : Free Chains (u ++ (mid ++ post))) : Free Chains (u ++ t ++ post) := by
  obtain ⟨hne, hmid, hlook, rfl⟩ := replaces_trailingBlanks h
  obtain ⟨e, he, r, hr⟩ := lineEnd_of_looksAt hlook
  rw [List.append_nil]
  intro o ho hpart
  cases post with
  | nil => exact hfree o ho (hpart.trans ⟨[], mid, by simp⟩)
  | cons d post =>
    obtain ⟨rfl, -⟩ := List.cons.inj hr
    rcases Text.infix_append_cons hpart with h | h | ⟨p, q, rfl, ⟨u', rfl⟩, ⟨v', rfl⟩⟩
    · exact hfree o ho (h.trans ⟨[], mid ++ d :: post, by simp⟩)
    · exact hfree o ho (h.trans ⟨u ++ (mid ++ [d]), [], by simp⟩)
    · obtain ⟨o', ho', r, hr⟩ := ho.insert he hne hmid
      refine hfree o' ho' ⟨u', r ++ v', ?_⟩
      calc u' ++ o' ++ (r ++ v') = u' ++ ((o' ++ r) ++ v') := by simp
        _ = u' ++ p ++ (mid ++ d :: (q ++ v')) := by rw [hr]; simp

theorem free_chains_of_trailingBlanks (h : Rewrites trailingBlanks [] s out fixes)
    (hfree : Free Chains s) : Free Chains out := by
  obtain ⟨_, u, rest, hI, hout, -⟩ := h.run (I := fun _ u tail => Free Chains (u ++ tail)) (u := [])
    (fun _ h => by simpa using h) free_chains_of_blanks hfree
  rw [List.nil_append] at hout
  rwa [hout]

/-! ## What the rule leaves -/

theorem Assignments.starts (ho : Assignments o) (h : o <+: v) :
    Starts optionalAssignment.pattern.node pre v := by
  obtain ⟨x, b, w, c, hmid⟩ := ho
  obtain ⟨post, rfl⟩ := h
  exact ⟨o, post, _, rfl, spans_optionalAssignment.2 ⟨[x], b, w, c, hmid, rfl⟩⟩

/-- What the rule for optional assignments writes. -/
def asserted (a b w : Text) (c : Char) : Text := a ++ '!' :: '.' :: (b ++ (w ++ ['=', c]))

theorem asserted_eq (a b w : Text) (c : Char) :
    asserted a b w c = (a ++ '!' :: '.' :: (b ++ (w ++ ['=']))) ++ [c] := by simp [asserted]

section

variable {a b w p q : Text} {c : Char}

/-- An assignment that begins in a replacement begins with the last character of it. -/
theorem Assignments.of_asserted (ho : Assignments o) (hmid : OptionalAssignment a b w c mid)
    (hcut : asserted a b w c = p ++ q) (hq : q ≠ []) (h : o <+: q ++ post) :
    p = a ++ '!' :: '.' :: (b ++ (w ++ ['='])) ∧ q = [c] := by
  obtain ⟨⟨-, ha⟩, ⟨-, hb⟩, hw, -, -⟩ := hmid
  obtain ⟨x, y, d, hx, -, -, rfl⟩ := ho.linked
  obtain ⟨z, q, rfl⟩ := List.exists_cons_of_ne_nil hq
  obtain ⟨rfl, hbegin⟩ := List.cons_prefix_cons.1 h
  rw [asserted_eq] at hcut
  cases q with
  | nil =>
    obtain ⟨hp, hc⟩ := List.append_inj' hcut rfl
    exact ⟨hp.symm, hc.symm⟩
  | cons e q =>
    obtain ⟨rfl, -⟩ := List.cons_prefix_cons.1 hbegin
    rcases List.eq_nil_or_concat q with rfl | ⟨q, f, rfl⟩
    · have hcut : a ++ '!' :: '.' :: (b ++ w) ++ ['=', c] = p ++ [x, '?'] := by simpa using hcut
      obtain ⟨rfl, -⟩ := List.cons.inj (List.append_inj' hcut rfl).2
      exact absurd hx (not_words_of_mem_marks '=' (by decide))
    · have hcut : a ++ '!' :: '.' :: (b ++ (w ++ ['='])) ++ [c] = p ++ x :: '?' :: q ++ [f] := by
        simpa using hcut
      have hquestion : '?' ∉ a ++ '!' :: '.' :: (b ++ (w ++ ['='])) := by
        simp [not_mem_of_words ha '?' (by decide), not_mem_of_words hb '?' (by decide),
          not_mem_of_blanks (c := '?') (by decide) hw]
      exact absurd ((List.append_inj' hcut rfl).1 ▸ by simp) hquestion

/-- An assignment that begins before the end of a replacement ends before its exclamation mark, or
begins with its last character. -/
theorem Assignments.cases (ho : Assignments o) (hmid : OptionalAssignment a b w c mid)
    (hcut : u ++ asserted a b w c = p ++ q) (hq : q ≠ []) (h : o <+: q ++ post) :
    (∃ q, q ≠ [] ∧ u = p ++ q ∧ o <+: q ++ (mid ++ post))
      ∨ (p = u ++ (a ++ '!' :: '.' :: (b ++ (w ++ ['=']))) ∧ o <+: c :: post) := by
  rcases List.append_eq_append_iff.1 hcut with ⟨p, rfl, hcut'⟩ | ⟨q', rfl, rfl⟩
  · obtain ⟨rfl, rfl⟩ := ho.of_asserted hmid hcut' hq h
    exact .inr ⟨rfl, h⟩
  · by_cases hq' : q' = []
    · subst hq'
      obtain ⟨hp, hc⟩ := ho.of_asserted (p := []) hmid rfl hq h
      simp at hp
    · obtain ⟨x, y, d, hlinked⟩ := ho.linked
      have hbegin : o <+: (q' ++ a) ++ ['!'] :=
        Text.prefix_of_last (hlinked.not_mem_dropLast '!' (by decide))
          (y := '.' :: (b ++ (w ++ '=' :: c :: post))) (by simpa [asserted] using h)
      refine .inl ⟨q', hq', rfl, ?_⟩
      obtain ⟨⟨hane, ha⟩, -, -, -, rfl⟩ := hmid
      rcases List.prefix_concat_iff.1 hbegin with heq | hbegin
      · rcases List.eq_nil_or_concat a with rfl | ⟨a, z, rfl⟩
        · exact absurd rfl hane
        · have heq : (x :: '?' :: y) ++ ['=', d] = (q' ++ a) ++ [z, '!'] := by
            simpa [hlinked.eq] using heq
          obtain ⟨rfl, -⟩ := List.cons.inj (List.append_inj' heq rfl).2
          exact absurd (by simp) (not_mem_of_words ha '=' (by decide))
      · exact hbegin.trans ⟨'?' :: '.' :: (b ++ (w ++ '=' :: c :: post)), by simp⟩

end

/-- The rule for optional assignments leaves no chain of them. -/
theorem free_chains (h : Rewrites optionalAssignment [] s out fixes) : Free Chains out := by
  -- an assignment after the member of another one
  let Occ (u tail : Text) : Prop := (∃ u' b w, (b ≠ [] ∧ All words b) ∧ All blanks w
    ∧ u = u' ++ '?' :: '.' :: (b ++ (w ++ ['=']))) ∧ Begins Assignments u tail
  rintro _ ⟨x, b, w, o, hx, hb, hw, ho, rfl⟩ ⟨p, q, hout⟩
  refine h.clears (fun _ _ _ => True) Occ id (fun _ h => h.2.choose_spec.1.starts h.2.choose_spec.2)
    (fun {pre u mid post t} hreplaces _ hnone => ⟨trivial, ?_⟩) trivial
    (a := p ++ x :: '?' :: '.' :: (b ++ (w ++ ['=']))) (b := o ++ q) (by simpa using hout.symm)
    ⟨⟨p ++ [x], b, w, hb, hw, by simp⟩, o, ho, q, rfl⟩
  obtain ⟨a, b, w, c, hmid, rfl⟩ := replaces_optionalAssignment hreplaces
  rintro p q hcut hq ⟨⟨u', b', w', hb', hw', rfl⟩, o, ho, hbegin⟩
  rcases ho.cases hmid hcut hq hbegin with ⟨q, hq, hu, hbegin⟩ | ⟨hp, -⟩
  · exact hnone _ q hu hq ⟨⟨u', b', w', hb', hw', rfl⟩, o, ho, hbegin⟩
  · -- the text before it has an exclamation mark there
    have hdot {b w : Text} (hb : All words b) (hw : All blanks w) : '.' ∉ b ++ (w ++ ['=']) := by
      simp [not_mem_of_words hb '.' (by decide), not_mem_of_blanks (c := '.') (by decide) hw]
    have hp : (u' ++ ['?']) ++ '.' :: (b' ++ (w' ++ ['=']))
        = (u ++ (a ++ ['!'])) ++ '.' :: (b ++ (w ++ ['='])) := by simpa using hp
    have hlast : u' ++ ['?'] = (u ++ a) ++ ['!'] := by
      simpa using (Text.cut_last hp (hdot hb'.2 hw') (hdot hmid.member.2 hmid.blanks)).1
    exact absurd (List.append_inj' hlast rfl).2 (by decide)

/-- The rule for optional assignments leaves none of them in a text without chains of them. -/
theorem free_assignments (h : Rewrites optionalAssignment [] s out fixes) (hfree : Free Chains s) :
    Free Assignments out := by
  rintro o ho ⟨p, q, hout⟩
  refine h.clears (fun _ _ tail => Free Chains tail) (Begins Assignments)
    (fun {_ _ gap tail} hfree => hfree.suffix (List.suffix_append gap tail))
    (fun _ h => h.choose_spec.1.starts h.choose_spec.2)
    (fun {pre u mid post t} hreplaces hfree hnone =>
      ⟨hfree.suffix (List.suffix_append mid post), ?_⟩) hfree
    (a := p) (b := o ++ q) (by simpa using hout.symm) ⟨o, ho, q, rfl⟩
  obtain ⟨a, b, w, c, hmid, rfl⟩ := replaces_optionalAssignment hreplaces
  rintro p q hcut hq ⟨o, ho, hbegin⟩
  rcases ho.cases hmid hcut hq hbegin with ⟨q, hq, hu, hbegin⟩ | ⟨-, r, hr⟩
  · exact hnone p q hu hq ⟨o, ho, hbegin⟩
  · -- the value of the match is the object of another assignment
    obtain ⟨⟨hane, ha⟩, hb, hw, -, rfl⟩ := hmid
    rcases List.eq_nil_or_concat a with rfl | ⟨a, x, rfl⟩
    · exact absurd rfl hane
    · refine hfree _ ⟨x, b, w, o, ha x (by simp), hb, hw, ho, rfl⟩ ⟨a, r, ?_⟩
      calc a ++ (x :: '?' :: '.' :: (b ++ (w ++ '=' :: o))) ++ r
          = a ++ x :: '?' :: '.' :: (b ++ (w ++ '=' :: (o ++ r))) := by simp
        _ = _ := by rw [hr]; simp

theorem settled_optionalAssignment (h : Free Assignments s) : optionalAssignment.Settled s := by
  rintro a b rfl ⟨mid, post, gs, rfl, hspans⟩
  obtain ⟨object, b, w, c, ⟨⟨hne, ha⟩, hb, hw, hc, rfl⟩, -⟩ := spans_optionalAssignment.1 hspans
  rcases List.eq_nil_or_concat object with rfl | ⟨object, x, rfl⟩
  · exact absurd rfl hne
  · have hx : All words [x] := List.forall_mem_singleton.2 (ha x (by simp))
    exact h _ ⟨x, b, w, c, ⟨by simp, hx⟩, hb, hw, hc, rfl⟩ ⟨a ++ object, post, by simp⟩

end SourceMend.Catalog.Builtin
