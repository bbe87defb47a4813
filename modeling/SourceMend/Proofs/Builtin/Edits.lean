import SourceMend.Proofs.Builtin.Rules
import SourceMend.Proofs.Builtin.Shapes
import SourceMend.Proofs.Rule.Rewriting
import SourceMend.Proofs.Text.Pieces
import SourceMend.Proofs.Text.Trim

/-!
# What the built-in rules replace

For each built-in rule the text that a match becomes.
-/

namespace SourceMend.Catalog.Builtin

open Pattern Unicode

variable {pre mid post t : Text}

/-! ## Templates -/

theorem expand_eq (p : Pattern) (m : Match) (template : String) (parts : List TemplatePart)
    (h : templateParts template.toList.length template.toList = parts) :
    p.expand m template.toList = parts.flatMap (·.expand p m) := by
  rw [expand, h]

theorem expand_ref (p : Pattern) (m : Match) {name : Text} {i : Nat}
    (h : Text.bounded Text.word64 name = .some i) :
    (TemplatePart.ref name).expand p m = (m.group? i).getD [] := by
  simp only [TemplatePart.expand, referenced, h]

theorem expand_char (p : Pattern) (m : Match) (c : Char) :
    (TemplatePart.char c).expand p m = [c] := rfl

theorem number_one : Text.bounded Text.word64 ['1'] = .some 1 := by decide
theorem number_two : Text.bounded Text.word64 ['2'] = .some 2 := by decide
theorem number_three : Text.bounded Text.word64 ['3'] = .some 3 := by decide
theorem number_four : Text.bounded Text.word64 ['4'] = .some 4 := by decide

/-! ## Blanks and semicolons -/

theorem replaces_trailingBlanks (h : trailingBlanks.Replaces pre mid post t) :
    mid ≠ [] ∧ All lineBlanks mid ∧ looksAt .anyLineEnd (pre ++ mid) post ∧ t = [] := by
  obtain ⟨gs, hchosen, ht⟩ := h
  obtain ⟨hne, hall, hlook, -⟩ := spans_trailingBlanks.1 hchosen.spans
  exact ⟨hne, hall, hlook, (Except.ok.inj ht).symm⟩

theorem replaces_semicolons (h : semicolons.Replaces pre mid post t) :
    (∃ x w, Semicolons x w mid) ∧ looksAt .anyLineEnd (pre ++ mid) post ∧ t = [';'] := by
  obtain ⟨gs, hchosen, ht⟩ := h
  obtain ⟨hmid, hlook, -⟩ := spans_semicolons.1 hchosen.spans
  exact ⟨hmid, hlook, (Except.ok.inj ht).symm⟩

/-! ## Optional assignments -/

theorem replaces_optionalAssignment (h : optionalAssignment.Replaces pre mid post t) :
    ∃ a b w c, OptionalAssignment a b w c mid ∧ t = a ++ '!' :: '.' :: (b ++ (w ++ ['=', c])) := by
  obtain ⟨gs, hchosen, ht⟩ := h
  obtain ⟨a, b, w, c, hmid, rfl⟩ := spans_optionalAssignment.1 hchosen.spans
  refine ⟨a, b, w, c, hmid, (Except.ok.inj ht).symm.trans ?_⟩
  rw [expand_eq _ _ _ [.ref ['1'], .char '!', .char '.', .ref ['2'], .ref ['3'], .char '=',
    .ref ['4']] (by decide)]
  simp [expand_ref _ _ number_one, expand_ref _ _ number_two, expand_ref _ _ number_three,
    expand_ref _ _ number_four, expand_char, Match.group?, List.lookup_cons]

/-- The rule writes an exclamation mark for a question mark, after a word and before a dot. -/
theorem optionalAssignment_cut (h : optionalAssignment.Replaces pre mid post t) :
    ∃ a z y, words.contains z = true ∧ mid = a ++ z :: '?' :: '.' :: y
      ∧ t = a ++ z :: '!' :: '.' :: y := by
  obtain ⟨a, b, w, c, ⟨⟨hne, ha⟩, -, -, -, rfl⟩, rfl⟩ := replaces_optionalAssignment h
  rcases List.eq_nil_or_concat a with rfl | ⟨a, z, rfl⟩
  · exact absurd rfl hne
  · exact ⟨a, z, b ++ (w ++ ['=', c]), ha z (by simp), by simp, by simp⟩

/-! ## Type arguments of promises -/

theorem replaces_promiseResolve (h : promiseResolve.Replaces pre mid post t) :
    (∃ x, PromiseCall x "resolve".toList mid)
      ∧ t = "Promise.".toList ++ ("resolve".toList ++ ['(']) := by
  obtain ⟨gs, hchosen, ht⟩ := h
  exact ⟨(spans_promiseResolve.1 hchosen.spans).1, (Except.ok.inj ht).symm⟩

theorem replaces_promiseStatic (h : promiseStatic.Replaces pre mid post t) :
    ∃ x f, f ∈ statics ∧ PromiseCall x f mid ∧ t = "Promise.".toList ++ (f ++ ['(']) := by
  obtain ⟨gs, hchosen, ht⟩ := h
  obtain ⟨x, f, hf, hmid, rfl⟩ := spans_promiseStatic.1 hchosen.spans
  refine ⟨x, f, hf, hmid, (Except.ok.inj ht).symm.trans ?_⟩
  rw [expand_eq _ _ _ ("Promise.".toList.map .char ++ [.ref ['1'], .char '(']) (by decide)]
  simp [expand_ref _ _ number_one, expand_char, Match.group?]

/-! ## Casts, exclamation marks and assertions -/

theorem replaces_repeatedCast (h : repeatedCast.Replaces pre mid post t) :
    ∃ x y, Recast x ∧ Rounds Recast y ∧ mid = "as any".toList ++ (x ++ y)
      ∧ AtBoundary pre (mid ++ post) ∧ AtBoundary (pre ++ mid) post ∧ t = "as any".toList := by
  obtain ⟨gs, hchosen, ht⟩ := h
  obtain ⟨x, y, hx, hy, hmid, hbefore, hafter, -⟩ := spans_repeatedCast.1 hchosen.spans
  exact ⟨x, y, hx, hy, hmid, hbefore, hafter, (Except.ok.inj ht).symm⟩

/-- Repeated casts have the last word at their end. -/
theorem repeated_last {x y : Text} (hx : Recast x) (hy : Rounds Recast y) :
    ∃ w, All arguments w ∧ x ++ y = w ++ "as any".toList := by
  induction hy generalizing x with
  | nil =>
    obtain ⟨w, -, hw, rfl⟩ := hx
    exact ⟨w, arguments_of_blanks hw, by simp⟩
  | cons hx' _ ih =>
    obtain ⟨w, -, hw, rfl⟩ := hx
    obtain ⟨w', hw', heq⟩ := ih hx'
    have hcast : All arguments "as any".toList := by decide
    exact ⟨w ++ ("as any".toList ++ w'), List.forall_mem_append.2
      ⟨arguments_of_blanks hw, List.forall_mem_append.2 ⟨hcast, hw'⟩⟩, by rw [heq]; simp⟩

/-- What repeated casts have between the first and the last word. -/
theorem replaces_repeatedCast_middle (h : repeatedCast.Replaces pre mid post t) :
    (∃ m, All arguments m ∧ mid = "as".toList ++ (m ++ "any".toList)) ∧ t = "as any".toList := by
  obtain ⟨x, y, hx, hy, rfl, -, -, rfl⟩ := replaces_repeatedCast h
  obtain ⟨w, hw, heq⟩ := repeated_last hx hy
  have hfirst : All arguments " any".toList := by decide
  have hlast : All arguments "as ".toList := by decide
  refine ⟨⟨" any".toList ++ (w ++ "as ".toList), List.forall_mem_append.2
    ⟨hfirst, List.forall_mem_append.2 ⟨hw, hlast⟩⟩, ?_⟩, rfl⟩
  rw [heq]
  simp

theorem replaces_stackedBangs (h : stackedBangs.Replaces pre mid post t) :
    ∃ c x, StackedBangs c x mid ∧ t = [c, '!', '.'] := by
  obtain ⟨gs, hchosen, ht⟩ := h
  obtain ⟨c, x, hmid, rfl⟩ := spans_stackedBangs.1 hchosen.spans
  refine ⟨c, x, hmid, (Except.ok.inj ht).symm.trans ?_⟩
  rw [expand_eq _ _ _ [.ref ['1'], .char '!', .char '.'] (by decide)]
  simp [expand_ref _ _ number_one, expand_char, Match.group?]

theorem replaces_angleAssertion (h : angleAssertion.Replaces pre mid post t) :
    ∃ a n e b, AngleAssertion a n e b mid
      ∧ t = '(' :: (e ++ (" as ".toList ++ (n ++ [')']))) := by
  obtain ⟨gs, hchosen, ht⟩ := h
  obtain ⟨a, n, e, b, hmid, rfl⟩ := spans_angleAssertion.1 hchosen.spans
  refine ⟨a, n, e, b, hmid, (Except.ok.inj ht).symm.trans ?_⟩
  rw [expand_eq _ _ _ [.char '(', .ref ['2'], .char ' ', .char 'a', .char 's', .char ' ',
    .ref ['1'], .char ')'] (by decide)]
  simp [expand_ref _ _ number_one, expand_ref _ _ number_two, expand_char, Match.group?, List.lookup_cons]

/-! ## Parameters -/

/-- The parameters `ns` declared as `any`. -/
def declared (ns : List Text) : Text := Text.join ", ".toList (ns.map (· ++ ": any".toList))

theorem declared_singleton (n : Text) : declared [n] = n ++ ": any".toList := by
  simp [declared, Text.join]

theorem declared_cons_cons (n m : Text) (ns : List Text) :
    declared (n :: m :: ns) = n ++ ": any, ".toList ++ declared (m :: ns) := by
  simp [declared, Text.join]

theorem not_mem_declared {c : Char} (hmark : c ∈ marks) (hc : c ∉ [':', ',', ' ']) {n : Text}
    (hn : IsName n) {ns : List Text} (hns : ∀ m ∈ ns, IsName m) : c ∉ declared (n :: ns) := by
  have hmarks : ∀ c ∈ marks, c ∉ [':', ',', ' '] → c ∉ ": any, ".toList := by decide
  have hnot := hmarks c hmark hc
  induction ns generalizing n with
  | nil =>
    rw [declared_singleton, List.mem_append, not_or]
    refine ⟨not_mem_of_words hn.words c hmark, fun h => hnot ?_⟩
    exact List.mem_append_left (", ".toList) h
  | cons m ns ih =>
    obtain ⟨hm, hns⟩ := List.forall_mem_cons.1 hns
    rw [declared_cons_cons, List.mem_append, List.mem_append, not_or, not_or]
    exact ⟨⟨not_mem_of_words hn.words c hmark, hnot⟩, ih hm hns⟩

theorem trim_name {a n b : Text} (ha : All blanks a) (hn : IsName n) (hb : All blanks b) :
    Text.trim (a ++ (n ++ b)) = n := by
  refine Text.trim_eq (fun c hc => contains_blanks.1 (ha c hc)) (fun c hc => ?_)
    fun c hc => contains_blanks.1 (hb c hc)
  rw [← Bool.not_eq_true, ← contains_blanks, not_blank_of_word (hn.words c hc)]
  exact Bool.false_ne_true

theorem comma_not_mem_blanks {a : Text} (ha : All blanks a) : ',' ∉ a := fun h =>
  absurd (ha _ h) (by decide)

/-- The pieces of a list of names between commas are the names with blanks around them. -/
theorem trimmed_pieces {r : Text} (h : Rounds NextName r) {b n : Text} (hb : All blanks b)
    (hn : IsName n) : ∃ ns, (Text.pieces ',' (b ++ (n ++ r))).map Text.trim = n :: ns
      ∧ ∀ m ∈ ns, IsName m := by
  have hcomma : ',' ∉ n := not_mem_of_words hn.words ',' (by decide)
  induction h generalizing b n with
  | nil =>
    have hnone : ',' ∉ b ++ (n ++ []) := by simp [hcomma, comma_not_mem_blanks hb]
    refine ⟨[], ?_, fun m hm => nomatch hm⟩
    rw [Text.pieces_of_not_mem hnone, List.map_singleton, trim_name hb hn (List.forall_mem_nil _)]
  | @cons x y hx _ ih =>
    obtain ⟨a, b', m, ha, hb', hm, rfl⟩ := hx
    obtain ⟨ns, hns, hall⟩ := ih hb' hm (not_mem_of_words hm.words ',' (by decide))
    have hnone : ',' ∉ b ++ (n ++ a) := by
      simp [hcomma, comma_not_mem_blanks hb, comma_not_mem_blanks ha]
    refine ⟨m :: ns, ?_, List.forall_mem_cons.2 ⟨hm, hall⟩⟩
    have hcut : b ++ (n ++ ((a ++ ',' :: (b' ++ m)) ++ y)) = (b ++ (n ++ a)) ++ ',' :: (b' ++ (m ++ y)) := by
      simp
    rw [hcut, Text.pieces_append_cons, Text.pieces_of_not_mem hnone, List.map_append,
      List.map_singleton, trim_name hb hn ha, hns]
    rfl

theorem replaces_arrowParameters (h : arrowParameters.Replaces pre mid post t) :
    ∃ a l b c n ns, ArrowParameters a l b c mid ∧ IsName n ∧ (∀ m ∈ ns, IsName m)
      ∧ t = '(' :: (declared (n :: ns) ++ ") =>".toList) := by
  obtain ⟨gs, hchosen, ht⟩ := h
  obtain ⟨a, l, b, c, hmid, rfl⟩ := spans_arrowParameters.1 hchosen.spans
  obtain ⟨n, r, hn, hr, rfl⟩ := hmid.names
  obtain ⟨ns, hns, hall⟩ := trimmed_pieces hr (List.forall_mem_nil _) hn
  refine ⟨a, _, b, c, n, ns, hmid, hn, hall, (Except.ok.inj ht).symm.trans ?_⟩
  have hdeclared : (Text.pieces ',' (n ++ r)).map (fun p => Text.trim p ++ ": any".toList)
      = (n :: ns).map (· ++ ": any".toList) := by
    rw [← hns, List.map_map]
    rfl
  rw [hdeclared]
  rfl

/-- A match of the arrow function rule is never refused. -/
theorem exists_replacement_arrowParameters {gs : Captures}
    (h : NodeSpans arrowParameters.pattern.node pre mid post gs) (start stop : Nat) :
    ∃ t, arrowParameters.transform.replacement arrowParameters.pattern ⟨start, stop, mid, gs⟩
      = .ok t := by
  obtain ⟨a, l, b, c, hmid, rfl⟩ := spans_arrowParameters.1 h
  exact ⟨_, rfl⟩

theorem replaces_routeParameters (h : routeParameters.Replaces pre mid post t) :
    (∃ a l b c, ArrowParameters a l b c mid)
      ∧ t = "(req: Request, res: Response) =>".toList := by
  obtain ⟨gs, hchosen, ht⟩ := h
  exact ⟨arrowParameters_of_routeParameters hchosen.spans, (Except.ok.inj ht).symm⟩

theorem replaces_catchBinding (h : catchBinding.Replaces pre mid post t) :
    ∃ a b n c, CatchBinding a b n c mid
      ∧ t = "catch ".toList ++ '(' :: (n ++ ": any".toList ++ [')']) := by
  obtain ⟨gs, hchosen, ht⟩ := h
  obtain ⟨a, b, n, c, hmid, rfl⟩ := spans_catchBinding.1 hchosen.spans
  refine ⟨a, b, n, c, hmid, (Except.ok.inj ht).symm.trans ?_⟩
  rw [expand_eq _ _ _ ("catch (".toList.map .char ++ .ref ['1'] :: ": any)".toList.map .char)
    (by decide)]
  simp [expand_ref _ _ number_one, expand_char, Match.group?]

end SourceMend.Catalog.Builtin
