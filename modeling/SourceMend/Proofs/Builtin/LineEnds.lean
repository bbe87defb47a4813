import SourceMend.Proofs.Builtin.Calls
import SourceMend.Proofs.Rule.Sequence

/-!
# The ends of lines

The parts that the rules for blanks and for semicolons look for.  Both rules look at what comes after
a match, and the end of the text is the end of a line, so a part lies in the text with a line end
after it.
-/

namespace SourceMend.Catalog.Builtin

open Pattern Rule Unicode

variable {pre mid post s t o u v out : Text} {L : Text → Prop} {fixes : Nat}

/-- Blanks and semicolons up to the end of a line. -/
def Debris (o : Text) : Prop :=
  ∃ x e, e ∈ ['\n', '\r'] ∧ x ⊆ [' ', '\t', ';'] ∧ o = x ++ [e]

/-- Blanks at the end of a line. -/
def Blanked (o : Text) : Prop :=
  ∃ w e, w ≠ [] ∧ All lineBlanks w ∧ e ∈ ['\n', '\r'] ∧ o = w ++ [e]

/-- Semicolons, at least two, at the end of a line. -/
def Doubled (o : Text) : Prop :=
  ∃ x w m e, Semicolons x w m ∧ e ∈ ['\n', '\r'] ∧ o = m ++ [e]

theorem Blanked.debris (h : Blanked o) : Debris o := by
  obtain ⟨w, e, -, hw, he, rfl⟩ := h
  refine ⟨w, e, he, fun c hc => ?_, rfl⟩
  have hsub : [' ', '\t'] ⊆ [' ', '\t', ';'] := by decide
  exact hsub (contains_lineBlanks.1 (hw c hc))

theorem Doubled.debris (h : Doubled o) : Debris o := by
  obtain ⟨x, w, _, e, ⟨-, hx, hw, rfl⟩, he, rfl⟩ := h
  refine ⟨_, e, he, fun c hc => ?_, rfl⟩
  rcases List.mem_cons.1 hc with rfl | hc
  · decide
  · rcases List.mem_append.1 hc with hc | hc
    · simp [hx c hc]
    · have hsub : [' ', '\t'] ⊆ [' ', '\t', ';'] := by decide
      exact hsub (contains_lineBlanks.1 (hw c hc))

/-! ## Rules that make none -/

/-- Whether a text has no end of a line, and ends with nothing that can be debris. -/
def Clean (t : Text) : Prop :=
  (∀ e ∈ ['\n', '\r'], e ∉ t) ∧ ∃ x z, t = x ++ [z] ∧ z ∉ [' ', '\t', ';']

theorem clean_of_promise {f : Text} (hf : f ∈ functions) : Clean ("Promise.".toList ++ (f ++ ['('])) := by
  have hends : ∀ e ∈ ['\n', '\r'], ∀ f ∈ functions, e ∉ "Promise.".toList ++ (f ++ ['(']) := by decide
  exact ⟨fun e he => hends e he f hf, "Promise.".toList ++ f, '(', by simp, by decide⟩

section

variable (hL : ∀ {o}, L o → Debris o)

include hL

theorem keeps_debris (ht : Clean t) : Keeps L mid t := by
  obtain ⟨hends, x, z, rfl, hz⟩ := ht
  refine keeps_of_infix fun {u v o} ho h => ⟨o, ho, ?_⟩
  obtain ⟨p, e, he, hp, rfl⟩ := hL ho
  have hze : z ∉ p ++ [e] := by
    have hzp : z ∉ p := fun h => hz (hp h)
    have hne : z ≠ e := fun h => hends e he (by simp [h])
    simp [hzp, hne]
  have h : p ++ [e] <:+: (u ++ x) ++ z :: v := by simpa using h
  rcases Text.infix_of_not_mem hze h with h | h
  · have hex : e ∉ x := fun h => hends e he (List.mem_append_left _ h)
    exact (Text.infix_left hex h).trans ⟨[], mid ++ v, rfl⟩
  · exact h.trans ⟨u ++ mid, [], by simp⟩

theorem keeps_debris_of_promiseResolve (h : promiseResolve.Replaces pre mid post t) :
    Keeps L mid t := by
  obtain ⟨-, rfl⟩ := replaces_promiseResolve h
  exact keeps_debris hL (clean_of_promise (by decide))

theorem keeps_debris_of_promiseStatic (h : promiseStatic.Replaces pre mid post t) :
    Keeps L mid t := by
  obtain ⟨x, f, hf, -, rfl⟩ := replaces_promiseStatic h
  exact keeps_debris hL (clean_of_promise (List.mem_cons_of_mem _ hf))

theorem keeps_debris_of_repeatedCast (h : repeatedCast.Replaces pre mid post t) :
    Keeps L mid t := by
  obtain ⟨x, y, -, -, -, -, -, rfl⟩ := replaces_repeatedCast h
  exact keeps_debris hL ⟨by decide, "as an".toList, 'y', by decide, by decide⟩

theorem keeps_debris_of_stackedBangs (h : stackedBangs.Replaces pre mid post t) :
    Keeps L mid t := by
  obtain ⟨c, x, ⟨hc, -, -, -⟩, rfl⟩ := replaces_stackedBangs h
  have hends : ∀ e ∈ ['\n', '\r'], e ∈ marks ∧ e ∉ [')', ']'] ∧ e ∉ ['!', '.'] := by decide
  refine keeps_debris hL ⟨fun e he => ?_, [c, '!'], '.', rfl, by decide⟩
  obtain ⟨hmark, hnot, hnot'⟩ := hends e he
  exact List.not_mem_cons_of_ne_of_not_mem (ne_of_operandEnds hc hmark hnot) hnot'

theorem keeps_debris_of_angleAssertion (h : angleAssertion.Replaces pre mid post t) :
    Keeps L mid t := by
  obtain ⟨a, n, e, b, ⟨-, hn, he, -, -⟩, rfl⟩ := replaces_angleAssertion h
  have hends : ∀ d ∈ ['\n', '\r'], d ∈ marks ∧ d ≠ '.' ∧ d ∉ "( as )".toList := by decide
  refine keeps_debris hL ⟨fun d hd => ?_, '(' :: (e ++ (" as ".toList ++ n)), ')', by simp, by decide⟩
  obtain ⟨hmark, hdot, hnot⟩ := hends d hd
  have hname := not_mem_of_words hn.words d hmark
  have hoperand := not_mem_of_dottedWords he.2 d hmark hdot
  simp_all

theorem keeps_debris_of_routeParameters (h : routeParameters.Replaces pre mid post t) :
    Keeps L mid t := by
  obtain ⟨-, rfl⟩ := replaces_routeParameters h
  exact keeps_debris hL ⟨by decide, "(req: Request, res: Response) =".toList, '>', by decide, by decide⟩

theorem keeps_debris_of_arrowParameters (h : arrowParameters.Replaces pre mid post t) :
    Keeps L mid t := by
  obtain ⟨a, l, b, c, n, ns, -, hn, hns, rfl⟩ := replaces_arrowParameters h
  have hends : ∀ e ∈ ['\n', '\r'], e ∈ marks ∧ e ∉ [':', ',', ' '] ∧ e ∉ "() =>".toList := by decide
  refine keeps_debris hL ⟨fun e he => ?_, '(' :: (declared (n :: ns) ++ ") =".toList), '>', by simp,
    by decide⟩
  obtain ⟨hmark, hnot, hnot'⟩ := hends e he
  have hnames := not_mem_declared hmark hnot hn hns
  simp_all

theorem keeps_debris_of_catchBinding (h : catchBinding.Replaces pre mid post t) :
    Keeps L mid t := by
  obtain ⟨a, b, n, c, ⟨-, -, hn, -, -⟩, rfl⟩ := replaces_catchBinding h
  have hends : ∀ e ∈ ['\n', '\r'], e ∈ marks ∧ e ∉ "catch (: any)".toList := by decide
  refine keeps_debris hL ⟨fun e he => ?_, "catch ".toList ++ '(' :: (n ++ ": any".toList), ')', by simp,
    by decide⟩
  obtain ⟨hmark, hnot⟩ := hends e he
  have hname := not_mem_of_words hn.words e hmark
  simp_all

/-- A rule that writes an exclamation mark for a question mark makes no debris. -/
theorem keeps_debris_of_optionalAssignment (h : optionalAssignment.Replaces pre mid post t) :
    Keeps L mid t := by
  obtain ⟨a, b, w, c, ⟨-, -, -, -, rfl⟩, rfl⟩ := replaces_optionalAssignment h
  refine keeps_of_infix fun {u v o} ho h => ⟨o, ho, ?_⟩
  have hbang : '!' ∉ o := by
    obtain ⟨x, e, he, hx, rfl⟩ := hL ho
    have hends : '!' ∉ ['\n', '\r'] := by decide
    have hmarks : '!' ∉ [' ', '\t', ';'] := by decide
    simp only [List.mem_append, List.mem_singleton, not_or]
    exact ⟨fun h => hmarks (hx h), fun h => hends (h ▸ he)⟩
  rcases Text.infix_of_not_mem (x := u ++ a) (y := '.' :: (b ++ (w ++ '=' :: c :: v))) hbang
    (by simpa using h) with h | h
  · exact h.trans ⟨[], '?' :: '.' :: (b ++ (w ++ '=' :: c :: v)), by simp⟩
  · exact h.trans ⟨u ++ a ++ ['?'], [], by simp⟩

end

theorem keeps_blanked_of_semicolons (h : semicolons.Replaces pre mid post t) : Keeps Blanked mid t := by
  obtain ⟨-, -, rfl⟩ := replaces_semicolons h
  refine keeps_of_infix fun {u v o} ho hpart => ⟨o, ho, ?_⟩
  have hsemicolon : ';' ∉ o := by
    obtain ⟨w, e, -, hw, he, rfl⟩ := ho
    have hw : ';' ∉ w := fun h => absurd (hw _ h) (by decide)
    have he : ';' ≠ e := by
      rintro rfl
      exact absurd he (by decide)
    simp [hw, he]
  rcases Text.infix_of_not_mem (y := v) hsemicolon (by simpa using hpart) with h | h
  · exact h.trans ⟨[], mid ++ v, rfl⟩
  · exact h.trans ⟨u ++ mid, [], by simp⟩

/-! ## Where the rules match -/

theorem lineEnd_of_looksAt (h : looksAt .anyLineEnd pre post) :
    ∃ e ∈ ['\n', '\r'], ∃ r, post ++ ['\n'] = e :: r := by
  cases post with
  | nil => exact ⟨'\n', by decide, [], rfl⟩
  | cons e r =>
    refine ⟨e, ?_, r ++ ['\n'], rfl⟩
    simp only [looksAt, Look.holds, List.head?_cons, Option.isNone_some, Bool.false_or,
      Bool.or_eq_true, Bool.and_eq_true, beq_iff_eq, Option.some.injEq] at h
    rcases h with rfl | ⟨rfl, -⟩
    · decide
    · decide

theorem looksAt_of_lineEnd {e : Char} {r : Text} (he : e ∈ ['\n', '\r'])
    (hpre : pre.getLast? ≠ .some '\r') (h : post ++ ['\n'] = e :: r) :
    looksAt .anyLineEnd pre post := by
  cases post with
  | nil => rfl
  | cons d r =>
    obtain ⟨rfl, -⟩ := List.cons.inj h
    have hpre : (pre.getLast? != .some '\r') = true := by simpa using hpre
    rcases List.mem_pair.1 he with rfl | rfl
    · simp [looksAt, Look.holds, hpre]
    · simp [looksAt, Look.holds]

theorem getLast?_ne {c : Char} (hne : mid ≠ []) (h : c ∉ mid) : (pre ++ mid).getLast? ≠ .some c := by
  rw [List.getLast?_append_of_ne_nil _ hne]
  exact fun hlast => h (List.mem_of_getLast? hlast)

theorem Blanked.starts (ho : Blanked o) (h : o <+: v ++ ['\n']) :
    Starts trailingBlanks.pattern.node pre v := by
  obtain ⟨w, e, hne, hw, he, rfl⟩ := ho
  obtain ⟨r, hr⟩ := h
  obtain ⟨post, rfl, hpost⟩ := Text.split_last (x := w) (by simpa using hr)
  have hreturn : '\r' ∉ w := fun h => absurd (hw _ h) (by decide)
  exact ⟨w, post, [], rfl, spans_trailingBlanks.2
    ⟨hne, hw, looksAt_of_lineEnd he (getLast?_ne hne hreturn) hpost, rfl⟩⟩

theorem Doubled.starts (ho : Doubled o) (h : o <+: v ++ ['\n']) :
    Starts semicolons.pattern.node pre v := by
  obtain ⟨x, w, m, e, hm, he, rfl⟩ := ho
  obtain ⟨r, hr⟩ := h
  obtain ⟨post, rfl, hpost⟩ := Text.split_last (x := m) (by simpa using hr)
  have hreturn : '\r' ∉ m := by
    obtain ⟨-, hx, hw, rfl⟩ := hm
    have hx : '\r' ∉ x := fun h => absurd (hx _ h) (by decide)
    have hw : '\r' ∉ w := fun h => absurd (hw _ h) (by decide)
    simp [hx, hw]
  have hne : m ≠ [] := by simp [hm.eq]
  exact ⟨m, post, [], rfl, spans_semicolons.2
    ⟨⟨x, w, hm⟩, looksAt_of_lineEnd he (getLast?_ne hne hreturn) hpost, rfl⟩⟩

/-! ## What the rules leave -/

/-- Whether a text of `L` begins at a position, if a line end comes after all. -/
abbrev BeginsLine (L : Text → Prop) (_ tail : Text) : Prop := Begins L [] (tail ++ ['\n'])

/-- A rule that leaves no debris of some kind. -/
theorem free_debris {r : Rule} (h : Rewrites r [] s out fixes) (hL : ∀ {o}, L o → Debris o)
    (hocc : ∀ {pre tail o}, L o → o <+: tail ++ ['\n'] → Starts r.pattern.node pre tail)
    (hstep : ∀ {pre u mid post t}, r.Replaces pre mid post t →
      NoneFrom (BeginsLine L) u (mid ++ post) → NoneFrom (BeginsLine L) (u ++ t) post) :
    Free L (out ++ ['\n']) := by
  rintro o ho ⟨a, b, hab⟩
  obtain ⟨x, e, -, -, rfl⟩ := hL ho
  obtain ⟨post, rfl, hpost⟩ := Text.split_last (x := a ++ x) (by simpa using hab)
  exact h.clears (fun _ _ _ => True) (BeginsLine L) id (fun _ h => hocc h.choose_spec.1 h.choose_spec.2)
    (fun hreplaces _ hnone => ⟨trivial, hstep hreplaces hnone⟩) trivial (List.append_assoc a x post)
    ⟨x ++ [e], ho, b, by simp [hpost]⟩

/-- No blanks are left at the end of a line. -/
theorem free_blanked (h : Rewrites trailingBlanks [] s out fixes) : Free Blanked (out ++ ['\n']) := by
  refine free_debris h Blanked.debris Blanked.starts fun {pre u mid post t} hreplaces hnone => ?_
  obtain ⟨hne, hmid, hlook, rfl⟩ := replaces_trailingBlanks hreplaces
  obtain ⟨e', he', r', hr'⟩ := lineEnd_of_looksAt hlook
  rw [List.append_nil]
  rintro a b hab hb ⟨_, ⟨w, e, hne', hw, he, rfl⟩, r, hr⟩
  -- blanks before the replacement would be blanks before the match
  have hblanks : ¬ All lineBlanks b := by
    intro hball
    refine hnone a b hab hb ⟨b ++ mid ++ [e'], ⟨b ++ mid, e', by simp [hb], ?_, he', rfl⟩, r', ?_⟩
    · exact List.forall_mem_append.2 ⟨hball, hmid⟩
    · simp [← hr']
  rcases List.append_eq_append_iff.1 (show w ++ e :: r = b ++ (post ++ ['\n']) by simpa using hr) with
    ⟨x, rfl, hx⟩ | ⟨x, rfl, -⟩
  · cases x with
    | nil => exact hblanks (by simpa using hw)
    | cons d x =>
      obtain ⟨rfl, -⟩ := List.cons.inj hx
      exact hnone a _ hab hb ⟨_, ⟨w, e, hne', hw, he, rfl⟩, x ++ (mid ++ post) ++ ['\n'], by simp⟩
  · exact hblanks fun c hc => hw c (List.mem_append_left _ hc)

/-- Semicolons that end with a semicolon have no blanks. -/
theorem Semicolons.concat {x w b : Text} (h : Semicolons x w (b ++ [';'])) :
    w = [] ∧ ∃ y, b = ';' :: y ∧ ∀ c ∈ y, c = ';' := by
  obtain ⟨hne, hx, hw, heq⟩ := h
  rcases List.eq_nil_or_concat w with rfl | ⟨w, d, rfl⟩
  · cases b with
    | nil => exact absurd (by simpa using heq.symm) hne
    | cons c y =>
      obtain ⟨rfl, rfl⟩ := List.cons.inj (show c :: (y ++ [';']) = ';' :: x by simpa using heq)
      exact ⟨rfl, y, rfl, fun c hc => hx c (List.mem_append_left _ hc)⟩
  · have heq : b ++ [';'] = (';' :: (x ++ w)) ++ [d] := by simpa using heq
    have hd : ';' = d := by simpa using (List.append_inj' heq rfl).2
    exact absurd (hw d (by simp)) (hd ▸ by decide)

/-- No semicolons but one are left at the end of a line. -/
theorem free_doubled (h : Rewrites semicolons [] s out fixes) : Free Doubled (out ++ ['\n']) := by
  refine free_debris h Doubled.debris Doubled.starts fun {pre u mid post t} hreplaces hnone => ?_
  obtain ⟨⟨x', w', hne', hx', hw', rfl⟩, hlook, rfl⟩ := replaces_semicolons hreplaces
  obtain ⟨e', he', r', hr'⟩ := lineEnd_of_looksAt hlook
  rintro a b hab hb ⟨_, ⟨x, w, m, e, hm, he, rfl⟩, r, hr⟩
  rcases List.eq_nil_or_concat b with rfl | ⟨b, d, rfl⟩
  · exact absurd rfl hb
  have hab : u ++ [';'] = a ++ b ++ [d] := by simpa using hab
  obtain ⟨rfl, hd⟩ := List.append_inj' hab rfl
  obtain rfl : ';' = d := by simpa using hd
  have hends : ∀ e ∈ ['\n', '\r'], e ≠ ';' ∧ lineBlanks.contains e = false := by decide
  have hcut : m ++ e :: r = b ++ ';' :: (post ++ ['\n']) := by simpa using hr
  rcases Text.cut_cases hcut (hends e he).1 with ⟨y, rfl, hy⟩ | ⟨y, rfl, -⟩
  · -- nothing comes between the semicolon and the line end
    obtain rfl : y = [] := by
      cases y with
      | nil => rfl
      | cons c y =>
        obtain ⟨rfl, -⟩ := List.cons.inj (hr'.symm.trans hy)
        have hmem : e' ∈ ';' :: (x ++ w) := hm.eq ▸ by simp
        simp only [List.mem_cons, List.mem_append] at hmem
        rcases hmem with h | h | h
        · exact absurd h (hends e' he').1
        · exact absurd (hm.semicolons e' h) (hends e' he').1
        · exact absurd (hm.blanks e' h) (by simp [(hends e' he').2])
    obtain ⟨rfl, y, rfl, hyall⟩ := hm.concat
    refine hnone a (';' :: y) rfl (by simp) ⟨(';' :: (y ++ ';' :: x')) ++ w' ++ [e'],
      ⟨y ++ ';' :: x', w', _, e', ⟨by simp, ?_, hw', by simp⟩, he', rfl⟩, r', by simp [← hr']⟩
    exact List.forall_mem_append.2 ⟨hyall, List.forall_mem_cons.2 ⟨rfl, hx'⟩⟩
  · exact hnone a (m ++ e :: y) rfl (by simp) ⟨m ++ [e], ⟨x, w, m, e, hm, he, rfl⟩,
      y ++ (';' :: (x' ++ w') ++ post) ++ ['\n'], by simp⟩

/-! ## Texts in which the rules match nowhere -/

theorem settled_trailingBlanks (h : Free Blanked (s ++ ['\n'])) : trailingBlanks.Settled s := by
  rintro a b rfl ⟨mid, post, gs, rfl, hspans⟩
  obtain ⟨hne, hmid, hlook, -⟩ := spans_trailingBlanks.1 hspans
  obtain ⟨e, he, r, hr⟩ := lineEnd_of_looksAt hlook
  exact h _ ⟨mid, e, hne, hmid, he, rfl⟩ ⟨a, r, by simp [hr]⟩

theorem settled_semicolons (h : Free Doubled (s ++ ['\n'])) : semicolons.Settled s := by
  rintro a b rfl ⟨mid, post, gs, rfl, hspans⟩
  obtain ⟨⟨x, w, hmid⟩, hlook, -⟩ := spans_semicolons.1 hspans
  obtain ⟨e, he, r, hr⟩ := lineEnd_of_looksAt hlook
  exact h _ ⟨x, w, mid, e, hmid, he, rfl⟩ ⟨a, r, by simp [hr]⟩

end SourceMend.Catalog.Builtin
