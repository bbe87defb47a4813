import SourceMend.Proofs.Builtin.Parts

/-!
# Parameters without types

The parts that the rules for arrow functions and for catch clauses look for.
-/

namespace SourceMend.Catalog.Builtin

open Pattern Rule Unicode

variable {pre mid post s t o u v out : Text} {fixes : Nat}

/-! ## Arrow functions -/

/-- The parameters of an arrow function without types, with the arrow. -/
def Arrows (o : Text) : Prop := ∃ a l b c, ArrowParameters a l b c o

theorem not_mem_of_rounds {x : Text} {c : Char} (hc : c ∈ [':', '>', '!']) (h : Rounds NextName x) :
    c ∉ x := by
  have hchars : ∀ c ∈ [':', '>', '!'], c ∈ marks ∧ blanks.contains c = false ∧ c ≠ ',' := by decide
  obtain ⟨hmark, hblank, hcomma⟩ := hchars c hc
  induction h with
  | nil => exact List.not_mem_nil
  | cons hx _ ih =>
    obtain ⟨a, b, n, ha, hb, hn, rfl⟩ := hx
    simp [not_mem_of_blanks hblank ha, not_mem_of_blanks hblank hb,
      not_mem_of_words hn.words c hmark, hcomma, ih]

theorem ArrowParameters.ends {a l b c : Text} (h : ArrowParameters a l b c o) :
    ∃ y, o = '(' :: y ++ ['>'] ∧ ∀ d ∈ [':', '>', '!'], d ∉ y := by
  obtain ⟨ha, ⟨n, r, hn, hr, rfl⟩, hb, hc, rfl⟩ := h
  refine ⟨a ++ (n ++ r ++ (b ++ ')' :: (c ++ ['=']))), by simp, fun d hd => ?_⟩
  have hchars : ∀ d ∈ [':', '>', '!'], d ∈ marks ∧ blanks.contains d = false ∧ d ∉ [')', '='] := by decide
  obtain ⟨hmark, hblank, hne⟩ := hchars d hd
  simp only [List.mem_cons, List.not_mem_nil, or_false, not_or] at hne
  simp [not_mem_of_blanks hblank ha, not_mem_of_words hn.words d hmark, not_mem_of_rounds hd hr,
    not_mem_of_blanks hblank hb, not_mem_of_blanks hblank hc, hne]

/-- Parameters with a type are no parameters without types, so what has a colon makes none. -/
theorem keeps_arrows (mid : Text) {x y : Text} (hx : '>' ∉ x) (hy : '(' ∉ y) :
    Keeps Arrows mid (x ++ ':' :: y) := by
  refine keeps_of_infix fun {u v o} ho hpart => ⟨o, ho, ?_⟩
  obtain ⟨_, _, _, _, ho⟩ := ho
  obtain ⟨z, rfl, hz⟩ := ho.ends
  have hcolon : ':' ∉ '(' :: z ++ ['>'] := by simp [hz ':' (by decide)]
  rcases Text.infix_of_not_mem (x := u ++ x) (y := y ++ v) hcolon (by simpa using hpart) with h | h
  · exact (Text.infix_left hx h).trans ⟨[], mid ++ v, rfl⟩
  · exact (Text.infix_right hy h).trans ⟨u ++ mid, [], by simp⟩

/-- The first colon of declared parameters. -/
theorem declared_colon {n : Text} (hn : IsName n) {ns : List Text} (hns : ∀ m ∈ ns, IsName m) :
    ∃ y, declared (n :: ns) = n ++ ':' :: y ∧ '(' ∉ y := by
  have hopen := not_mem_declared (c := '(') (by decide) (by decide) hn hns
  cases ns with
  | nil => exact ⟨" any".toList, by simp [declared_singleton], by decide⟩
  | cons m ns =>
    have heq : declared (n :: m :: ns) = n ++ ':' :: (" any, ".toList ++ declared (m :: ns)) := by
      simp [declared_cons_cons]
    rw [heq] at hopen
    exact ⟨_, heq, fun h => hopen (List.mem_append_right _ (List.mem_cons_of_mem _ h))⟩

theorem keeps_arrows_of_arrowParameters (h : arrowParameters.Replaces pre mid post t) :
    Keeps Arrows v t := by
  obtain ⟨a, l, b, c, n, ns, -, hn, hns, rfl⟩ := replaces_arrowParameters h
  obtain ⟨y, heq, hy⟩ := declared_colon hn hns
  have hname : '>' ∉ '(' :: n := by simp [not_mem_of_words hn.words '>' (by decide)]
  have hrest : '(' ∉ y ++ ") =>".toList := by simp [hy]
  rw [heq]
  simpa using keeps_arrows v hname hrest

theorem keeps_arrows_of_catchBinding (h : catchBinding.Replaces pre mid post t) :
    Keeps Arrows mid t := by
  obtain ⟨a, b, n, c, ⟨-, -, hn, -, -⟩, rfl⟩ := replaces_catchBinding h
  have hname : '>' ∉ "catch (".toList ++ n := by simp [not_mem_of_words hn.words '>' (by decide)]
  simpa using keeps_arrows mid hname (y := " any)".toList) (by decide)

theorem finds_arrows : arrowParameters.Finds Arrows := by
  intro pre mid post
  constructor
  · rintro ⟨gs, h⟩
    obtain ⟨a, l, b, c, hmid, -⟩ := spans_arrowParameters.1 h
    exact ⟨a, l, b, c, hmid⟩
  · rintro ⟨a, l, b, c, hmid⟩
    exact ⟨_, spans_arrowParameters.2 ⟨a, l, b, c, hmid, rfl⟩⟩

theorem free_arrows (h : Rewrites arrowParameters [] s out fixes) : Free Arrows out := by
  refine h.clears_of_last (z := '>') finds_arrows (fun ho => ?_)
    fun hreplaces => ⟨?_, fun {u} hfree => ?_⟩
  · obtain ⟨a, l, b, c, hmid⟩ := ho
    obtain ⟨y, rfl, hy⟩ := hmid.ends
    rw [List.dropLast_concat]
    simp [hy '>' (by decide)]
  · obtain ⟨a, l, b, c, n, ns, -, -, -, rfl⟩ := replaces_arrowParameters hreplaces
    exact ⟨'(' :: (declared (n :: ns) ++ ") =".toList), by simp⟩
  · simpa using keeps_arrows_of_arrowParameters (v := []) hreplaces u [] (by simpa using hfree)

/-! ## Catch clauses -/

/-- A catch clause with a binding without a type. -/
def Catches (o : Text) : Prop := ∃ a b n c, CatchBinding a b n c o

theorem CatchBinding.ends {a b n c : Text} (h : CatchBinding a b n c o) :
    ∃ y, o = y ++ [')'] ∧ '(' ∈ y ∧ ∀ d ∈ [':', ')', '!'], d ∉ y := by
  obtain ⟨ha, hb, hn, hc, rfl⟩ := h
  refine ⟨"catch".toList ++ (a ++ '(' :: (b ++ (n ++ c))), by simp, by simp, fun d hd => ?_⟩
  have hchars : ∀ d ∈ [':', ')', '!'], d ∈ marks ∧ blanks.contains d = false
      ∧ d ∉ "catch".toList ∧ d ≠ '(' := by decide
  obtain ⟨hmark, hblank, hcatch, hopen⟩ := hchars d hd
  simp only [List.mem_append, List.mem_cons, not_or]
  exact ⟨hcatch, not_mem_of_blanks hblank ha, hopen, not_mem_of_blanks hblank hb,
    not_mem_of_words hn.words d hmark, not_mem_of_blanks hblank hc⟩

theorem finds_catches : catchBinding.Finds Catches := by
  intro pre mid post
  constructor
  · rintro ⟨gs, h⟩
    obtain ⟨a, b, n, c, hmid, -⟩ := spans_catchBinding.1 h
    exact ⟨a, b, n, c, hmid⟩
  · rintro ⟨a, b, n, c, hmid⟩
    exact ⟨_, spans_catchBinding.2 ⟨a, b, n, c, hmid, rfl⟩⟩

theorem free_catches (h : Rewrites catchBinding [] s out fixes) : Free Catches out := by
  refine h.clears_of_last (z := ')') finds_catches (fun ho => ?_) fun hreplaces => ?_
  · obtain ⟨a, b, n, c, hmid⟩ := ho
    obtain ⟨y, rfl, -, hy⟩ := hmid.ends
    rw [List.dropLast_concat]
    exact ⟨by simp, hy ')' (by decide)⟩
  · obtain ⟨a, b, n, c, ⟨-, -, hn, -, -⟩, rfl⟩ := replaces_catchBinding hreplaces
    refine ⟨⟨"catch ".toList ++ '(' :: (n ++ ": any".toList), by simp⟩, fun {u} hfree o ho hpart => ?_⟩
    have hcatches := ho
    obtain ⟨_, _, _, _, hmid⟩ := ho
    obtain ⟨y, rfl, hopen, hy⟩ := hmid.ends
    have hcolon := hy ':' (by decide)
    have hclose : ')' ∉ "catch (".toList ++ n := by simp [not_mem_of_words hn.words ')' (by decide)]
    have hrest : '(' ∉ " any)".toList := by decide
    rcases Text.infix_of_not_mem (o := y ++ [')']) (c := ':') (x := u ++ ("catch (".toList ++ n))
      (y := " any)".toList) (by simpa using hcolon) (by simpa using hpart) with h | h
    · exact hfree _ hcatches (Text.infix_left hclose h)
    · exact absurd (h.subset (List.mem_append_left _ hopen)) hrest

end SourceMend.Catalog.Builtin
