import SourceMend.Proofs.Builtin.Parts
import SourceMend.Proofs.Pattern.Greedy

/-!
# Repeated casts

The rule for repeated casts takes all of them that follow each other, since its rounds are greedy,
so what it leaves has no two of them.
-/

namespace SourceMend.Catalog.Builtin

open Pattern Rule Unicode

variable {pre mid post s t o u v out : Text} {fixes : Nat}

/-- A cast, written twice between other words. -/
def Casts (o : Text) : Prop :=
  ∃ c w d, wordChars.contains c = false ∧ w ≠ [] ∧ All blanks w ∧ wordChars.contains d = false
    ∧ o = c :: 'a' :: 's' :: ' ' :: 'a' :: 'n' :: 'y' :: (w ++ ['a', 's', ' ', 'a', 'n', 'y', d])

theorem Casts.not_mem (h : Casts o) {e : Char} (he : e ∈ ['(', ')', '!']) : e ∉ o.tail.dropLast := by
  obtain ⟨c, w, d, -, -, hw, -, rfl⟩ := h
  have hchars : ∀ e ∈ ['(', ')', '!'], e ∉ ['a', 's', ' ', 'a', 'n', 'y']
      ∧ blanks.contains e = false := by decide
  obtain ⟨hcast, hblank⟩ := hchars e he
  have hinner : e ∉ ['a', 's', ' ', 'a', 'n', 'y'] ++ (w ++ ['a', 's', ' ', 'a', 'n', 'y']) := by
    simp only [List.mem_append, not_or]
    exact ⟨hcast, not_mem_of_blanks hblank hw, hcast⟩
  simpa using not_mem_inner (a := c) (z := d) hinner

theorem aside_casts : Aside Casts where
  opens h := h.not_mem (by decide)
  closes h := h.not_mem (by decide)
  plain := by
    rintro _ m ⟨c, w, d, hc, hne, hw, hd, rfl⟩ hm h
    have hcast : ['s', ' ', 'a', 'n'] <:+: '(' :: (m ++ [')']) :=
      List.IsInfix.trans ⟨[c, 'a'], 'y' :: (w ++ ['a', 's', ' ', 'a', 'n', 'y', d]), rfl⟩ h
    have hcast : ['s', ' ', 'a', 'n'] <:+: m ++ [')'] := Text.infix_right (x := ['(']) (by decide) hcast
    exact hm.cast (Text.infix_left (o := ['s', ' ', 'a']) (by decide) hcast)
  arrow := by
    rintro _ v ⟨c, w, d, hc, hne, hw, hd, rfl⟩ h
    exact infix_of_first_two (u := [')', ' ']) (by decide) h
  keyword := by
    rintro _ u ⟨c, w, d, hc, hne, hw, hd, rfl⟩ h
    have h : c :: 'a' :: 's' :: ' ' :: 'a' :: 'n' :: 'y' :: (w ++ ['a', 's', ' ', 'a', 'n']) ++ ['y', d]
        <:+: u ++ 'h' :: [' ', '('] := by simpa using h
    simpa using infix_of_last_two (by decide) h

/-- A cast that ends before the exclamation mark ends before the question mark. -/
theorem keeps_casts_of_optionalAssignment (h : optionalAssignment.Replaces pre mid post t) :
    Keeps Casts mid t := by
  obtain ⟨a, z, y, -, rfl, rfl⟩ := optionalAssignment_cut h
  refine keeps_of_infix fun {u v o} ho hpart => ?_
  rcases Text.infix_of_ends (c := '!') (x := u ++ (a ++ [z])) (y := '.' :: (y ++ v))
    (ho.not_mem (by decide)) (by simpa using hpart) with h | h
  · rcases List.infix_concat_iff.1 h with ⟨p, hp⟩ | h
    · obtain ⟨c, w, d, hc, hne, hw, hd, rfl⟩ := ho
      refine ⟨_, ⟨c, w, '?', hc, hne, hw, by decide, rfl⟩, p, '.' :: (y ++ v), ?_⟩
      have hp : (p ++ c :: 'a' :: 's' :: ' ' :: 'a' :: 'n' :: 'y' :: (w ++ ['a', 's', ' ', 'a', 'n', 'y']))
          ++ [d] = u ++ (a ++ [z]) ++ ['!'] := by simpa using hp
      calc p ++ c :: 'a' :: 's' :: ' ' :: 'a' :: 'n' :: 'y'
            :: (w ++ ['a', 's', ' ', 'a', 'n', 'y', '?']) ++ '.' :: (y ++ v)
          = (p ++ c :: 'a' :: 's' :: ' ' :: 'a' :: 'n' :: 'y' :: (w ++ ['a', 's', ' ', 'a', 'n', 'y']))
            ++ '?' :: '.' :: (y ++ v) := by simp
        _ = _ := by rw [(List.append_inj' hp rfl).1]; simp
    · exact ⟨o, ho, h.trans ⟨[], '?' :: '.' :: (y ++ v), by simp⟩⟩
  · rcases List.infix_cons_iff.1 h with h | h
    · obtain ⟨c, w, d, -, -, -, -, rfl⟩ := ho
      exact absurd (List.cons_prefix_cons.1 (List.cons_prefix_cons.1 h).2).1 (by decide)
    · exact ⟨o, ho, h.trans ⟨u ++ (a ++ [z, '?']), [], by simp⟩⟩

/-! ## Where casts lie -/

/-- The cast that is repeated. -/
def cast : Text := ['a', 's', ' ', 'a', 'n', 'y']

/-- A cast that is written twice, with the character after it. -/
def Recasts (o : Text) : Prop :=
  ∃ w d, w ≠ [] ∧ All blanks w ∧ wordChars.contains d = false ∧ o = cast ++ (w ++ (cast ++ [d]))

/-- Whether a text ends inside of a word. -/
def endsInWord (t : Text) : Bool := t.getLast?.any wordChars.contains

/-- Whether a cast that is written twice begins at a position, if a blank comes after all. -/
def RecastsAt (u tail : Text) : Prop := endsInWord u = false ∧ Begins Recasts u (tail ++ [' '])

theorem endsInWord_append {x : Text} (hx : x ≠ []) : endsInWord (u ++ x) = endsInWord x := by
  simp [endsInWord, List.getLast?_append_of_ne_nil _ hx]

theorem atBoundary_iff : AtBoundary pre post
    ↔ (endsInWord pre != post.head?.any wordChars.contains) = true := Iff.rfl

theorem word_a : wordChars.contains 'a' = true := by decide

/-- Where a part of a cast ends that does not end inside of a word. -/
theorem rest_of_cast {x y : Text} (h : cast = x ++ y) (hx : x ≠ []) (hend : endsInWord x = false) :
    y = ['a', 'n', 'y'] := by
  have hall : ∀ k < 7, cast.take k ≠ [] → endsInWord (cast.take k) = false →
      cast.drop k = ['a', 'n', 'y'] := by decide
  have hlength : x.length < 7 := by
    have hlength := congrArg List.length h
    simp only [cast, List.length_cons, List.length_nil, List.length_append] at hlength
    omega
  have htake : cast.take x.length = x := by rw [h, List.take_left]
  have hdrop : cast.drop x.length = y := by rw [h, List.drop_left]
  have hrest := hall x.length hlength
  rw [htake, hdrop] at hrest
  exact hrest hx hend

theorem cast_ne {x r : Text} : ['a', 'n', 'y'] ++ x ≠ cast ++ r := by simp [cast]

/-- Where a cast lies in a text that begins with a cast written twice, if it does not begin inside
of a word: it is the second of them, or comes after both. -/
theorem second_of_casts {x w r r' : Text} {d : Char} (hw : w ≠ [] ∧ All blanks w)
    (hd : wordChars.contains d = false) (h : cast ++ (w ++ (cast ++ d :: r)) = x ++ (cast ++ r'))
    (hx : x ≠ []) (hend : endsInWord x = false) :
    (x = cast ++ w ∧ r' = d :: r) ∨ ∃ y, x = cast ++ (w ++ (cast ++ d :: y)) := by
  rcases List.append_eq_append_iff.1 h with ⟨y, rfl, h₁⟩ | ⟨y, hy, h₁⟩
  · rcases List.append_eq_append_iff.1 h₁ with ⟨y, rfl, h₂⟩ | ⟨y, rfl, h₂⟩
    · rcases List.append_eq_append_iff.1 h₂ with ⟨y, rfl, h₃⟩ | ⟨z, hz, h₃⟩
      · cases y with
        | nil =>
          obtain ⟨rfl, -⟩ := List.cons.inj h₃
          simp [word_a] at hd
        | cons e y =>
          obtain ⟨rfl, -⟩ := List.cons.inj h₃
          exact .inr ⟨y, by simp⟩
      · by_cases hy : y = []
        · subst hy
          obtain rfl : cast = z := hz
          exact .inl ⟨by simp, List.append_cancel_left h₃⟩
        · rw [← List.append_assoc, endsInWord_append hy] at hend
          obtain rfl := rest_of_cast hz hy hend
          exact absurd h₃.symm cast_ne
    · cases y with
      | nil => exact .inl ⟨by simp, List.append_cancel_left h₂⟩
      | cons e y =>
        obtain ⟨rfl, -⟩ := List.cons.inj h₂
        exact absurd (hw.2 'a' (by simp)) (by decide)
  · obtain rfl := rest_of_cast hy hx hend
    exact absurd h₁.symm cast_ne

theorem endsInWord_cast : endsInWord (u ++ cast) = true := by
  rw [endsInWord_append (by simp [cast])]
  decide

theorem atBoundary_cast {d : Char} {r : Text} (hd : wordChars.contains d = false)
    (h : post ++ [' '] = d :: r) : AtBoundary (u ++ cast) post := by
  rw [atBoundary_iff, endsInWord_cast]
  cases post with
  | nil => rfl
  | cons e post =>
    obtain ⟨rfl, -⟩ := List.cons.inj h
    simp [hd]

theorem RecastsAt.starts {tail : Text} (hagree : endsInWord pre = endsInWord u)
    (h : RecastsAt u tail) : Starts repeatedCast.pattern.node pre tail := by
  obtain ⟨hend, _, ⟨w, d, hne, hw, hd, rfl⟩, r, hr⟩ := h
  obtain ⟨post, rfl, hpost⟩ := Text.split_last (x := cast ++ (w ++ cast)) (by simpa using hr)
  refine ⟨cast ++ (w ++ cast), post, [], rfl, spans_repeatedCast.2
    ⟨w ++ cast, [], ⟨w, hne, hw, rfl⟩, .nil, by simp [cast], ?_, ?_, rfl⟩⟩
  · rw [atBoundary_iff, hagree, hend]
    exact word_a
  · simpa using atBoundary_cast (u := pre ++ (cast ++ w)) hd hpost

/-- No further cast comes after repeated casts. -/
theorem not_recast_after (h : repeatedCast.Replaces pre mid post t) {w r : Text} {d : Char}
    (hw : w ≠ [] ∧ All blanks w) (hd : wordChars.contains d = false) :
    post ++ [' '] ≠ w ++ (cast ++ d :: r) := by
  intro heq
  obtain ⟨gs, hchosen, -⟩ := h
  have hchosen : Chosen (.seq (.check (.word .boundary wordChars)) (.seq (literalNode cast)
      (.seq (.again 0 true (.seq (.again 1 true (.take blanks)) (literalNode cast)))
      (.check (.word .boundary wordChars))))) pre mid post gs := hchosen
  obtain ⟨x, z, hs, rfl, hz, hnot⟩ := hchosen.not_starts_again (by decide) rfl
  obtain ⟨hlook, rfl, -⟩ := spans_check.1 hz
  obtain ⟨post', rfl, hpost⟩ := Text.split_last (x := w ++ cast) (by simpa using heq.symm)
  have hafter : AtBoundary (pre ++ x ++ (w ++ cast)) post' := by
    simpa using atBoundary_cast (u := pre ++ x ++ w) hd hpost
  exact hnot ⟨w ++ cast ++ [], post', [] ++ [], by simp,
    .seq (.once (spans_recast.2 ⟨⟨w, hw.1, hw.2, rfl⟩, rfl⟩)) (.check hafter)⟩

theorem Recasts.concat {w r : Text} {d : Char} (hw : w ≠ [] ∧ All blanks w)
    (hd : wordChars.contains d = false) : Begins Recasts u (cast ++ (w ++ (cast ++ d :: r))) :=
  ⟨_, ⟨w, d, hw.1, hw.2, hd, rfl⟩, r, by simp⟩

/-- A replacement makes no cast that is written twice. -/
theorem noneFrom_recasts (h : repeatedCast.Replaces pre mid post t)
    (hagree : endsInWord pre = endsInWord u) (hnone : NoneFrom RecastsAt u (mid ++ post)) :
    NoneFrom RecastsAt (u ++ t) post := by
  have hnot {w r : Text} {d : Char} (hw : w ≠ [] ∧ All blanks w)
      (hd : wordChars.contains d = false) : post ++ [' '] ≠ w ++ (cast ++ d :: r) :=
    not_recast_after h hw hd
  obtain ⟨_, y, ⟨w', hne', hw', rfl⟩, -, rfl, hbefore, -, rfl⟩ := replaces_repeatedCast h
  have hu : endsInWord u = false := by
    have hboundary := atBoundary_iff.1 hbefore
    simpa [hagree, word_a] using hboundary
  rintro a b hab hb ⟨hend, _, ⟨w, d, hne, hw, hd, rfl⟩, r, hr⟩
  have hr : cast ++ (w ++ (cast ++ d :: r)) = b ++ (post ++ [' ']) := by simpa using hr
  rcases List.append_eq_append_iff.1 hab with ⟨x, rfl, hx⟩ | ⟨x, rfl, rfl⟩
  · -- the cast begins in the replacement
    by_cases hxnil : x = []
    · subst hxnil
      obtain rfl : cast = b := hx
      exact hnot ⟨hne, hw⟩ hd (List.append_cancel_left hr).symm
    · rw [endsInWord_append hxnil] at hend
      obtain rfl := rest_of_cast hx hxnil hend
      exact cast_ne hr.symm
  · by_cases hxnil : x = []
    · subst hxnil
      exact hnot ⟨hne, hw⟩ hd (List.append_cancel_left (show _ = cast ++ (post ++ [' ']) from hr)).symm
    · rw [endsInWord_append hxnil] at hu
      obtain ⟨e, w', rfl⟩ := List.exists_cons_of_ne_nil hne'
      have he : wordChars.contains e = false := not_word_of_blank (hw' e List.mem_cons_self)
      have hr : cast ++ (w ++ (cast ++ d :: r)) = x ++ (cast ++ (post ++ [' '])) :=
        hr.trans (List.append_assoc _ _ _)
      have hcases := second_of_casts ⟨hne, hw⟩ hd hr hxnil hu
      refine hnone a x rfl hxnil ⟨hend, ?_⟩
      rcases hcases with ⟨rfl, -⟩ | ⟨y', rfl⟩
      · have hbegins := Recasts.concat (u := a) (r := w' ++ (cast ++ (y ++ (post ++ [' '])))) ⟨hne, hw⟩ he
        simpa [cast] using hbegins
      · have hbegins := Recasts.concat (u := a) ⟨hne, hw⟩ hd
          (r := y' ++ (cast ++ (e :: (w' ++ (cast ++ (y ++ (post ++ [' '])))))))
        simpa [cast] using hbegins

/-- No repeated casts are left. -/
theorem free_casts (h : Rewrites repeatedCast [] s out fixes) :
    Free Casts ([' '] ++ (out ++ [' '])) := by
  have hnone {a b : Text} (hout : out = a ++ b) : ¬ RecastsAt a b := by
    refine h.clears (fun pre u _ => endsInWord pre = endsInWord u) RecastsAt
      (fun {pre u gap _} hagree => ?_)
      (fun hagree h => h.starts hagree)
      (fun {pre u mid post t} hreplaces hagree hnone => ⟨?_, noneFrom_recasts hreplaces hagree hnone⟩)
      rfl hout
    · by_cases hgap : gap = []
      · simpa [hgap] using hagree
      · rw [endsInWord_append hgap, endsInWord_append hgap]
    · obtain ⟨⟨m, -, rfl⟩, rfl⟩ := replaces_repeatedCast_middle hreplaces
      rw [endsInWord_append (by simp), endsInWord_append (by simp), endsInWord_append (by simp),
        endsInWord_append (by simp)]
      decide
  rintro _ ⟨c, w, d, hc, hne, hw, hd, rfl⟩ ⟨p, q, hpq⟩
  have hbegins (a : Text) := Recasts.concat (u := a) (r := q) ⟨hne, hw⟩ hd
  cases p with
  | nil =>
    obtain ⟨-, hpq⟩ := List.cons.inj hpq
    refine hnone (List.nil_append out).symm ⟨rfl, ?_⟩
    rw [show out ++ [' '] = cast ++ (w ++ (cast ++ d :: q)) by simpa [cast] using hpq.symm]
    exact hbegins []
  | cons e p =>
    obtain ⟨-, hpq⟩ := List.cons.inj hpq
    obtain ⟨tail, rfl, htail⟩ := Text.split_last (x := p ++ [c] ++ (cast ++ (w ++ cast))) (c := d) (r := q)
      (v := out) (z := ' ') (by simpa [cast] using hpq)
    refine hnone (a := p ++ [c]) (b := cast ++ (w ++ cast) ++ tail) (by simp) ⟨?_, ?_⟩
    · simp [endsInWord, hc]
    · simpa [htail] using hbegins (p ++ [c])

theorem before_cast (h : AtBoundary pre (cast ++ post)) :
    ∃ p c, wordChars.contains c = false ∧ [' '] ++ pre = p ++ [c] := by
  rcases List.eq_nil_or_concat pre with rfl | ⟨p, c, rfl⟩
  · exact ⟨[], ' ', by decide, rfl⟩
  · refine ⟨' ' :: p, c, ?_, by simp⟩
    have hboundary := atBoundary_iff.1 h
    simpa [endsInWord, cast, word_a] using hboundary

theorem after_casts {y : Text} (hy : Rounds Recast y) (h : AtBoundary (u ++ (cast ++ y)) post) :
    ∃ d r, wordChars.contains d = false ∧ y ++ (post ++ [' ']) = d :: r := by
  cases hy with
  | nil =>
    cases post with
    | nil => exact ⟨' ', [], by decide, rfl⟩
    | cons d post =>
      refine ⟨d, post ++ [' '], ?_, rfl⟩
      have hboundary := atBoundary_iff.1 h
      rw [List.append_nil, endsInWord_cast] at hboundary
      simpa using hboundary
  | cons hx _ =>
    obtain ⟨w, hne, hw, rfl⟩ := hx
    obtain ⟨d, w, rfl⟩ := List.exists_cons_of_ne_nil hne
    exact ⟨d, _, not_word_of_blank (hw d List.mem_cons_self), rfl⟩

/-- Where there are no casts that are written twice, the rule has no match. -/
theorem not_starts_of_free {a b : Text} (h : Free Casts ([' '] ++ (a ++ b ++ [' ']))) :
    ¬ Starts repeatedCast.pattern.node a b := by
  rintro ⟨_, post, gs, rfl, hspans⟩
  obtain ⟨_, y, ⟨w, hne, hw, rfl⟩, hy, rfl, hbefore, hafter, -⟩ := spans_repeatedCast.1 hspans
  have hbefore : AtBoundary a (cast ++ (w ++ (cast ++ (y ++ post)))) := by
    simpa [cast] using hbefore
  obtain ⟨p, c, hc, hp⟩ := before_cast hbefore
  obtain ⟨d, r, hd, hr⟩ := after_casts (u := a ++ (cast ++ w)) hy (by simpa [cast] using hafter)
  refine h _ ⟨c, w, d, hc, hne, hw, hd, rfl⟩ ⟨p, r, ?_⟩
  calc p ++ c :: 'a' :: 's' :: ' ' :: 'a' :: 'n' :: 'y' :: (w ++ ['a', 's', ' ', 'a', 'n', 'y', d]) ++ r
      = (p ++ [c]) ++ (cast ++ (w ++ (cast ++ d :: r))) := by simp [cast]
    _ = _ := by rw [← hp, ← hr]; simp [cast]

end SourceMend.Catalog.Builtin
