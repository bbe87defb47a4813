import SourceMend.Proofs.Builtin.Edits
import SourceMend.Proofs.Rule.Absence

/-!
# The parts of a text that the built-in rules look for

Each kind of part is a set of texts.  Most kinds have parentheses at their ends only (`Aside`), so a
rule that puts a plain text between parentheses makes no such part.
-/

namespace SourceMend.Catalog.Builtin

open Pattern Rule Unicode

variable {pre mid post t o u v m m' : Text} {L : Text → Prop}

/-! ## Parts and parentheses -/

/-- Whether a text can be put between parentheses without making any of the parts. -/
structure Plain (m : Text) : Prop where
  angle : '<' ∉ m
  bang : '!' ∉ m
  question : '?' ∉ m
  cast : ¬ ['s', ' ', 'a', 'n'] <:+: m

/-- Parts that have parentheses at their ends only, and neither begin before an arrow nor end after
the keyword of a catch clause. -/
structure Aside (L : Text → Prop) : Prop where
  opens : ∀ {o}, L o → '(' ∉ o.tail.dropLast
  closes : ∀ {o}, L o → ')' ∉ o.tail.dropLast
  plain : ∀ {o m}, L o → Plain m → ¬ o <:+: '(' :: (m ++ [')'])
  arrow : ∀ {o v}, L o → o <:+: ')' :: ' ' :: '=' :: v → o <:+: '=' :: v
  keyword : ∀ {o u}, L o → o <:+: u ++ ['h', ' ', '('] → o <:+: u ++ ['h']

/-- Where a part lies in a text with parentheses. -/
theorem Aside.cases (hL : Aside L) (ho : L o) (hm : Plain m)
    (h : o <:+: u ++ '(' :: (m ++ ')' :: v)) : o <:+: u ++ ['('] ∨ o <:+: ')' :: v := by
  rcases Text.infix_of_ends (hL.opens ho) h with h | h
  · exact .inl h
  · rcases Text.infix_of_ends (x := '(' :: m) (hL.closes ho) h with h | h
    · exact absurd h (hL.plain ho hm)
    · exact .inr h

theorem Aside.keeps_angleAssertion (hL : Aside L) (hm : Plain m') :
    Keeps L ('(' :: (m ++ [')'])) ('(' :: (m' ++ [')'])) := by
  refine keeps_of_infix fun {u v o} ho h => ⟨o, ho, ?_⟩
  rcases hL.cases ho hm (by simpa using h) with h | h
  · exact h.trans ⟨[], m ++ ')' :: v, by simp⟩
  · exact h.trans ⟨u ++ '(' :: m, [], by simp⟩

theorem Aside.keeps_arrow (hL : Aside L) (hm : Plain m') {c : Text} :
    Keeps L ('(' :: (m ++ ')' :: (c ++ ['=', '>']))) ('(' :: (m' ++ ") =>".toList)) := by
  refine keeps_of_infix fun {u v o} ho h => ⟨o, ho, ?_⟩
  rcases hL.cases ho hm (v := ' ' :: '=' :: '>' :: v) (by simpa using h) with h | h
  · exact h.trans ⟨[], m ++ ')' :: (c ++ '=' :: '>' :: v), by simp⟩
  · exact (hL.arrow ho h).trans ⟨u ++ '(' :: (m ++ ')' :: c), [], by simp⟩

theorem Aside.keeps_catchBinding (hL : Aside L) (hm : Plain m') {a : Text} :
    Keeps L ("catch".toList ++ (a ++ '(' :: (m ++ [')'])))
      ("catch ".toList ++ '(' :: (m' ++ [')'])) := by
  refine keeps_of_infix fun {u v o} ho h => ⟨o, ho, ?_⟩
  rcases hL.cases ho hm (u := u ++ ['c', 'a', 't', 'c', 'h', ' ']) (by simpa using h) with h | h
  · exact (hL.keyword (u := u ++ ['c', 'a', 't', 'c']) ho (by simpa using h)).trans
      ⟨[], a ++ '(' :: (m ++ ')' :: v), by simp⟩
  · exact h.trans ⟨u ++ "catch".toList ++ a ++ '(' :: m, [], by simp⟩

/-! ## Plain texts between parentheses -/

theorem plain_assertion {e n : Text} (he : All dottedWords e) (hn : IsTypeName n) :
    Plain (e ++ (" as ".toList ++ n)) where
  angle := by
    simp [not_mem_of_dottedWords he '<' (by decide) (by decide), not_mem_of_words hn.words '<' (by decide)]
  bang := by
    simp [not_mem_of_dottedWords he '!' (by decide) (by decide), not_mem_of_words hn.words '!' (by decide)]
  question := by
    simp [not_mem_of_dottedWords he '?' (by decide) (by decide), not_mem_of_words hn.words '?' (by decide)]
  cast := by
    have he := not_mem_of_dottedWords he ' ' (by decide) (by decide)
    have hname := not_mem_of_words hn.words ' ' (by decide)
    obtain ⟨c, r, hc, -, rfl⟩ := hn
    intro h
    rcases Text.infix_of_once (c := ' ') (p := ['s']) (q := ['a', 'n']) (x := e)
      (y := 'a' :: 's' :: ' ' :: c :: r) (by decide) (by decide) h with h | h | ⟨-, h⟩
    · exact he (h.subset (by simp))
    · rcases Text.infix_of_once (c := ' ') (p := ['s']) (q := ['a', 'n']) (x := ['a', 's'])
        (by decide) (by decide) h with h | h | ⟨-, h⟩
      · exact absurd h (by decide)
      · exact hname (h.subset (by simp))
      · obtain ⟨rfl, -⟩ := List.cons_prefix_cons.1 h
        exact absurd hc (by decide)
    · exact absurd h (by simp)

theorem plain_declared {n : Text} (hn : IsName n) {ns : List Text} (hns : ∀ m ∈ ns, IsName m) :
    Plain (declared (n :: ns)) where
  angle := not_mem_declared (by decide) (by decide) hn hns
  bang := not_mem_declared (by decide) (by decide) hn hns
  question := not_mem_declared (by decide) (by decide) hn hns
  cast := by
    induction ns generalizing n with
    | nil =>
      rw [declared_singleton]
      intro h
      rcases Text.infix_of_not_mem (o := ['s', ' ', 'a', 'n']) (c := ':') (y := " any".toList)
        (by decide) h with h | h
      · exact not_mem_of_words hn.words ' ' (by decide) (h.subset (by simp))
      · exact absurd h (by decide)
    | cons m ns ih =>
      obtain ⟨hm, hns⟩ := List.forall_mem_cons.1 hns
      rw [declared_cons_cons]
      intro h
      rcases Text.infix_of_not_mem (o := ['s', ' ', 'a', 'n']) (c := ':') (x := n)
        (y := " any, ".toList ++ declared (m :: ns)) (by decide) (by simpa using h) with h | h
      · exact not_mem_of_words hn.words ' ' (by decide) (h.subset (by simp))
      · exact ih hm hns (Text.infix_right (c := 's') (x := " any, ".toList) (by decide) h)

theorem plain_route : Plain "req: Request, res: Response".toList where
  angle := by simp
  bang := by simp
  question := by simp
  cast h := absurd (h.subset (show 'a' ∈ _ by simp)) (by simp)

/-! ## Rules that write between parentheses -/

theorem Aside.keeps_of_angleAssertion (hL : Aside L) (h : angleAssertion.Replaces pre mid post t) :
    Keeps L mid t := by
  obtain ⟨a, n, e, b, ⟨-, hn, he, -, rfl⟩, rfl⟩ := replaces_angleAssertion h
  have hkeeps := hL.keeps_angleAssertion (plain_assertion he.2 hn)
    (m := a ++ '<' :: (n ++ '>' :: (e ++ b)))
  simpa using hkeeps

theorem Aside.keeps_of_arrow (hL : Aside L) {a l b c : Text} (hmid : ArrowParameters a l b c mid)
    (hm : Plain m) : Keeps L mid ('(' :: (m ++ ") =>".toList)) := by
  obtain ⟨-, -, -, -, rfl⟩ := hmid
  simpa using hL.keeps_arrow hm (m := a ++ (l ++ b)) (c := c)

theorem Aside.keeps_of_routeParameters (hL : Aside L)
    (h : routeParameters.Replaces pre mid post t) : Keeps L mid t := by
  obtain ⟨⟨a, l, b, c, hmid⟩, rfl⟩ := replaces_routeParameters h
  have ht : "(req: Request, res: Response) =>".toList
      = '(' :: ("req: Request, res: Response".toList ++ ") =>".toList) := by simp
  rw [ht]
  exact hL.keeps_of_arrow hmid plain_route

theorem Aside.keeps_of_arrowParameters (hL : Aside L)
    (h : arrowParameters.Replaces pre mid post t) : Keeps L mid t := by
  obtain ⟨a, l, b, c, n, ns, hmid, hn, hns, rfl⟩ := replaces_arrowParameters h
  exact hL.keeps_of_arrow hmid (plain_declared hn hns)

theorem Aside.keeps_of_catchBinding (hL : Aside L) (h : catchBinding.Replaces pre mid post t) :
    Keeps L mid t := by
  obtain ⟨a, b, n, c, ⟨-, -, hn, -, rfl⟩, rfl⟩ := replaces_catchBinding h
  have hplain : Plain (n ++ ": any".toList) := by
    simpa [declared_singleton] using plain_declared hn (List.forall_mem_nil _)
  have hkeeps := hL.keeps_catchBinding hplain (m := b ++ (n ++ c)) (a := a)
  simpa using hkeeps

/-! ## Rules for exclamation marks -/

theorem bangs_last {x : Text} (hne : x ≠ []) (hx : ∀ d ∈ x, d = '!') :
    ∃ y, x = y ++ ['!'] ∧ ∀ d ∈ y, d = '!' := by
  rcases List.eq_nil_or_concat x with rfl | ⟨y, d, rfl⟩
  · exact absurd rfl hne
  · obtain ⟨hy, hd⟩ := List.forall_mem_append.1 (List.concat_eq_append ▸ hx)
    exact ⟨y, by rw [List.concat_eq_append, hd d List.mem_cons_self], hy⟩

/-- A rule that takes exclamation marks away makes no part that has them at its ends only. -/
theorem keeps_of_stackedBangs (hL : ∀ {o}, L o → '!' ∉ o.tail.dropLast)
    (h : stackedBangs.Replaces pre mid post t) : Keeps L mid t := by
  obtain ⟨c, x, ⟨-, hne, hx, rfl⟩, rfl⟩ := replaces_stackedBangs h
  refine keeps_of_infix fun {u v o} ho hpart => ⟨o, ho, ?_⟩
  obtain ⟨x, rfl, -⟩ := bangs_last hne hx
  rcases Text.infix_of_ends (x := u ++ [c]) (y := '.' :: v) (hL ho) (by simpa using hpart) with h | h
  · exact h.trans ⟨[], x ++ '!' :: '.' :: v, by simp⟩
  · exact h.trans ⟨u ++ c :: '!' :: x, [], by simp⟩

theorem keeps_of_optionalAssignment (hL : ∀ {o}, L o → '!' ∉ o)
    (h : optionalAssignment.Replaces pre mid post t) : Keeps L mid t := by
  obtain ⟨a, z, y, -, rfl, rfl⟩ := optionalAssignment_cut h
  refine keeps_of_infix fun {u v o} ho hpart => ⟨o, ho, ?_⟩
  rcases Text.infix_of_not_mem (x := u ++ (a ++ [z])) (y := '.' :: (y ++ v)) (hL ho)
    (by simpa using hpart) with h | h
  · exact h.trans ⟨[], '?' :: '.' :: (y ++ v), by simp⟩
  · exact h.trans ⟨u ++ (a ++ [z, '?']), [], by simp⟩

/-! ## Where a part ends -/

/-- A part that ends with `d` after `c` does not end in a text without `c`. -/
theorem infix_of_last_two {p : Text} {c d e : Char} (hc : c ∉ e :: v)
    (h : p ++ [c, d] <:+: u ++ e :: v) : p ++ [c, d] <:+: u ++ [e] := by
  obtain ⟨hce, hcv⟩ := not_or.1 (mt List.mem_cons.2 hc)
  rcases Text.infix_append_cons h with h | h | ⟨x, y, hxy, hx, hy⟩
  · exact List.infix_append_of_infix_left h
  · exact absurd (h.subset (by simp)) hcv
  · rcases List.eq_nil_or_concat y with rfl | ⟨y, z, rfl⟩
    · rw [hxy]
      exact (Text.suffix_append_singleton hx).isInfix
    · have hxy : p ++ [c] ++ [d] = x ++ e :: y ++ [z] := by simpa using hxy
      have hxy : p ++ [c] = x ++ e :: y := List.append_inj_left' hxy rfl
      rcases List.eq_nil_or_concat y with rfl | ⟨y, z', rfl⟩
      · exact absurd (by simpa using (List.append_inj' hxy rfl).2) hce
      · have hz : c = z' := by
          have hxy : p ++ [c] = (x ++ e :: y) ++ [z'] := by simpa using hxy
          simpa using (List.append_inj' hxy rfl).2
        exact absurd (hy.subset (by simp [hz])) hcv

/-- A part that begins with `c` before `d` does not begin in a text without `d`. -/
theorem infix_of_first_two {p : Text} {c d e : Char} (hd : d ∉ u ++ [e])
    (h : c :: d :: p <:+: u ++ e :: v) : c :: d :: p <:+: e :: v := by
  rw [← List.reverse_infix] at h ⊢
  have h := infix_of_last_two (p := p.reverse) (u := v.reverse) (v := u.reverse) (c := d) (d := c)
    (e := e) (by simpa [or_comm] using hd) (by simpa using h)
  simpa using h

theorem not_mem_inner {a z c : Char} {y : Text} (h : c ∉ y) : c ∉ (a :: (y ++ [z])).tail.dropLast := by
  rwa [List.tail_cons, List.dropLast_concat]

end SourceMend.Catalog.Builtin
