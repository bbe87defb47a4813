import SourceMend.Proofs.Builtin.Parts

/-!
# Assertions

The parts that the rules for exclamation marks and for assertions in angle brackets look for.
-/

namespace SourceMend.Catalog.Builtin

open Pattern Rule Unicode

variable {pre mid post s t o u v out : Text} {fixes : Nat}

/-! ## Exclamation marks -/

/-- Exclamation marks, at least two, between an operand and a dot. -/
def Bangs (o : Text) : Prop := ∃ c x, StackedBangs c x o

theorem StackedBangs.not_mem {c d : Char} {x : Text} (h : StackedBangs c x o) (hd : d ≠ '!') :
    d ∉ o.tail.dropLast := by
  obtain ⟨hc, hne, hx, rfl⟩ := h
  refine not_mem_inner (y := '!' :: x) (List.not_mem_cons_of_ne_of_not_mem hd fun hmem => ?_)
  exact hd (hx d hmem)

theorem aside_bangs : Aside Bangs where
  opens := fun ⟨_, _, h⟩ => h.not_mem (by decide)
  closes := fun ⟨_, _, h⟩ => h.not_mem (by decide)
  plain := by
    rintro _ m ⟨c, x, hc, hne, hx, rfl⟩ hm h
    simpa [hm.bang] using h.subset (show '!' ∈ _ by simp)
  arrow := by
    rintro _ v ⟨c, x, hc, hne, hx, rfl⟩ h
    exact infix_of_first_two (u := [')', ' ']) (by decide) h
  keyword := by
    rintro _ u ⟨c, x, hc, hne, hx, rfl⟩ h
    have h : c :: '!' :: x ++ ['.'] <:+: (u ++ ['h']) ++ [' ', '('] := by simpa using h
    exact Text.infix_left (by decide) h

theorem Bangs.last (ho : Bangs o) : o ≠ [] ∧ '.' ∉ o.dropLast := by
  obtain ⟨c, x, hc, -, hx, rfl⟩ := ho
  have hcut : c :: '!' :: (x ++ ['.']) = (c :: '!' :: x) ++ ['.'] := by simp
  have hx : '.' ∉ x := fun h => absurd (hx _ h) (by decide)
  rw [hcut, List.dropLast_concat]
  simp [ne_of_operandEnds hc (d := '.') (by decide) (by decide), hx]

/-- No part ends after one exclamation mark and a dot. -/
theorem Bangs.infix_of_single {c : Char} (ho : Bangs o) (hc : '!' ≠ c)
    (h : o <:+: u ++ [c, '!', '.']) : o <:+: u ++ [c] := by
  obtain ⟨c', x, -, hne, hx, rfl⟩ := ho
  have h : c' :: '!' :: x ++ ['.'] <:+: (u ++ [c, '!']) ++ ['.'] := by simpa using h
  rcases List.infix_concat_iff.1 h with ⟨p, hp⟩ | h
  · -- before the dot there are two exclamation marks
    obtain ⟨x, rfl, hall⟩ := bangs_last hne hx
    obtain ⟨y, hy, -⟩ := bangs_last (x := '!' :: x) (by simp) (List.forall_mem_cons.2 ⟨rfl, hall⟩)
    have hp : p ++ c' :: '!' :: x ++ ['!', '.'] = u ++ [c] ++ ['!', '.'] := by simpa using hp
    have hp : p ++ c' :: y ++ ['!'] = u ++ [c] := by simpa [hy] using (List.append_inj' hp rfl).1
    exact absurd (by simpa using (List.append_inj' hp rfl).2) hc
  · have h : c' :: '!' :: x ++ ['.'] <:+: (u ++ [c]) ++ ['!'] := by simpa using h
    exact Text.infix_left (by decide) h

/-- An exclamation mark between a word and a dot is not one of several. -/
theorem keeps_bangs_of_optionalAssignment (h : optionalAssignment.Replaces pre mid post t) :
    Keeps Bangs mid t := by
  obtain ⟨a, z, y, hz, rfl, rfl⟩ := optionalAssignment_cut h
  have hbang : '!' ≠ z := by
    rintro rfl
    exact not_words_of_mem_marks '!' (by decide) hz
  refine keeps_of_infix fun {u v o} ho hpart => ⟨o, ho, ?_⟩
  rcases Text.infix_of_last (x := u ++ (a ++ [z, '!'])) (y := y ++ v) ho.last.2
    (by simpa using hpart) with h | h
  · have h : o <:+: u ++ a ++ [z] := ho.infix_of_single hbang (by simpa using h)
    exact h.trans ⟨[], '?' :: '.' :: (y ++ v), by simp⟩
  · exact h.trans ⟨u ++ (a ++ [z, '?', '.']), [], by simp⟩

theorem finds_bangs : stackedBangs.Finds Bangs := by
  intro pre mid post
  constructor
  · rintro ⟨gs, h⟩
    obtain ⟨c, x, hmid, -⟩ := spans_stackedBangs.1 h
    exact ⟨c, x, hmid⟩
  · rintro ⟨c, x, hmid⟩
    exact ⟨_, spans_stackedBangs.2 ⟨c, x, hmid, rfl⟩⟩

theorem free_bangs (h : Rewrites stackedBangs [] s out fixes) : Free Bangs out := by
  refine h.clears_of_last finds_bangs (fun ho => ho.last) fun hreplaces => ?_
  obtain ⟨c, x, ⟨hc, -, -, -⟩, rfl⟩ := replaces_stackedBangs hreplaces
  refine ⟨⟨[c, '!'], rfl⟩, fun {u} hfree o ho hpart => ?_⟩
  have hbang : '!' ≠ c := ne_of_operandEnds hc (by decide) (by decide)
  have hdot : '.' ≠ c := ne_of_operandEnds hc (by decide) (by decide)
  have hsingle := ho.infix_of_single hbang hpart
  have hbangs := ho
  obtain ⟨c', x', -, -, -, rfl⟩ := ho
  exact hfree _ hbangs (Text.infix_left (o := c' :: '!' :: x') (by simpa using hdot) hsingle)

/-! ## Assertions in angle brackets -/

/-- An assertion in angle brackets, in parentheses. -/
def Angles (o : Text) : Prop := ∃ a n e b, AngleAssertion a n e b o

theorem AngleAssertion.not_mem {a n e b : Text} {c : Char} (h : AngleAssertion a n e b o)
    (hc : c ∈ ['(', ')', '!']) : c ∉ o.tail.dropLast := by
  obtain ⟨ha, hn, he, hb, rfl⟩ := h
  have hchars : ∀ c ∈ ['(', ')', '!'], c ∈ marks ∧ c ≠ '<' ∧ c ≠ '>' ∧ c ≠ '.'
      ∧ blanks.contains c = false := by decide
  obtain ⟨hmark, hopen, hclose, hdot, hblank⟩ := hchars c hc
  have hinner : c ∉ a ++ '<' :: (n ++ '>' :: (e ++ b)) := by
    simp [not_mem_of_blanks hblank ha, hopen, not_mem_of_words hn.words c hmark, hclose,
      not_mem_of_dottedWords he.2 c hmark hdot, not_mem_of_blanks hblank hb]
  simpa using not_mem_inner (a := '(') (z := ')') hinner

theorem aside_angles : Aside Angles where
  opens := fun ⟨_, _, _, _, h⟩ => h.not_mem (by decide)
  closes := fun ⟨_, _, _, _, h⟩ => h.not_mem (by decide)
  plain := by
    rintro _ m ⟨a, n, e, b, ha, hn, he, hb, rfl⟩ hm h
    simpa [hm.angle] using h.subset (show '<' ∈ _ by simp)
  arrow := by
    rintro _ v ⟨a, n, e, b, ha, hn, he, hb, rfl⟩ h
    exact Text.infix_right (x := [')', ' ']) (by decide) h
  keyword := by
    rintro _ u ⟨a, n, e, b, ha, hn, he, hb, rfl⟩ h
    have h : '(' :: (a ++ '<' :: (n ++ '>' :: (e ++ b))) ++ [')'] <:+: (u ++ ['h']) ++ [' ', '('] := by
      simpa using h
    simpa using Text.infix_left (by decide) h

theorem AngleAssertion.ends {a n e b : Text} (h : AngleAssertion a n e b o) :
    ∃ y, o = '(' :: y ++ [')'] := by
  obtain ⟨-, -, -, -, rfl⟩ := h
  exact ⟨a ++ '<' :: (n ++ '>' :: (e ++ b)), by simp⟩

theorem finds_angles : angleAssertion.Finds Angles := by
  intro pre mid post
  constructor
  · rintro ⟨gs, h⟩
    obtain ⟨a, n, e, b, hmid, -⟩ := spans_angleAssertion.1 h
    exact ⟨a, n, e, b, hmid⟩
  · rintro ⟨a, n, e, b, hmid⟩
    exact ⟨_, spans_angleAssertion.2 ⟨a, n, e, b, hmid, rfl⟩⟩

theorem free_angles (h : Rewrites angleAssertion [] s out fixes) : Free Angles out := by
  refine h.clears_of_last (z := ')') finds_angles (fun ho => ?_) fun hreplaces => ?_
  · have hclose := aside_angles.closes ho
    obtain ⟨a, n, e, b, hmid⟩ := ho
    obtain ⟨y, rfl⟩ := hmid.ends
    rw [List.dropLast_concat]
    simpa using hclose
  · obtain ⟨a, n, e, b, ⟨-, hn, he, -, rfl⟩, rfl⟩ := replaces_angleAssertion hreplaces
    refine ⟨⟨'(' :: (e ++ (" as ".toList ++ n)), by simp⟩, fun {u} hfree o ho hpart => ?_⟩
    have hangles := ho
    obtain ⟨_, _, _, _, hmid⟩ := ho
    obtain ⟨y, rfl⟩ := hmid.ends
    rcases aside_angles.cases hangles (plain_assertion he.2 hn) (u := u) (v := [])
      (by simpa using hpart) with h | h
    · exact hfree _ hangles (Text.infix_left (by decide) h)
    · exact absurd h.length_le (by simp)

end SourceMend.Catalog.Builtin
