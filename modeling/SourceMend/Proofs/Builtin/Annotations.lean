import SourceMend.Proofs.Builtin.Parameters
import SourceMend.Proofs.Rule.Replacing
import SourceMend.Proofs.Text.Join

/-!
# Parameters with types

The rule for arrow functions writes the list of parameters anew.  The new list has the
identifiers of the old one in their order, each with its type (`Annotated`), and nothing
but blanks is lost (`solid_sublist_join`).  The list is matched name by name and written
piece by piece between commas.  Both come to the same, since a piece that is a name
after trimming has that name as its only identifier (`identifiers_of_trim`).
-/

namespace SourceMend.Catalog.Builtin

open Pattern Rule Unicode

variable {a b n r s t : Text} {x : Char} {m : Match}

/-! ## Identifiers -/

/-- The identifiers of a text: the longest stretches of characters of names, from the left. -/
def identifiers (s : Text) : List Text :=
  (s.splitOnP fun c => !words.contains c).filter fun n => !n.isEmpty

theorem identifiers_nil : identifiers [] = [] := rfl

theorem identifiers_of_isName (hn : IsName n) : identifiers n = [n] := by
  have hwords : ∀ c ∈ n, (!words.contains c) = false := fun c hc => by simp [hn.words c hc]
  obtain ⟨c, r, -, -, rfl⟩ := hn
  rw [identifiers, List.splitOnP_eq_singleton hwords]
  rfl

/-- A character that names do not have separates identifiers. -/
theorem identifiers_append_cons (hx : words.contains x = false) (a b : Text) :
    identifiers (a ++ x :: b) = identifiers a ++ identifiers b := by
  have hsep : (!words.contains x) = true := by simp [hx]
  have hsplit := List.splitOnP_append_cons a b (p := fun c => !words.contains c) hsep
  rw [identifiers, hsplit, List.filter_append, identifiers, identifiers]

theorem not_word_of_isBlank (hx : Text.isBlank x = true) : words.contains x = false :=
  Bool.eq_false_iff.2 fun hword => by
    rw [← contains_blanks, not_blank_of_word hword] at hx
    cases hx

theorem identifiers_of_blanks (hb : ∀ c ∈ b, Text.isBlank c = true) : identifiers b = [] := by
  induction b with
  | nil => rfl
  | cons c b ih =>
    obtain ⟨hc, hb⟩ := List.forall_mem_cons.1 hb
    have hcut := identifiers_append_cons (not_word_of_isBlank hc) [] b
    rw [List.nil_append] at hcut
    rw [hcut, ih hb, identifiers_nil, List.append_nil]

theorem identifiers_append_blanks (hb : ∀ c ∈ b, Text.isBlank c = true) (s : Text) :
    identifiers (s ++ b) = identifiers s := by
  cases b with
  | nil => rw [List.append_nil]
  | cons c b =>
    obtain ⟨hc, hb⟩ := List.forall_mem_cons.1 hb
    rw [identifiers_append_cons (not_word_of_isBlank hc), identifiers_of_blanks hb, List.append_nil]

theorem identifiers_blanks_append (ha : ∀ c ∈ a, Text.isBlank c = true) (s : Text) :
    identifiers (a ++ s) = identifiers s := by
  induction a with
  | nil => rfl
  | cons c a ih =>
    obtain ⟨hc, ha⟩ := List.forall_mem_cons.1 ha
    have hcut := identifiers_append_cons (not_word_of_isBlank hc) [] (a ++ s)
    rw [List.nil_append, identifiers_nil, List.nil_append] at hcut
    rw [List.cons_append, hcut, ih ha]

/-- What is a name after trimming has no other identifier. -/
theorem identifiers_of_trim (h : IsName (Text.trim s)) : identifiers s = [Text.trim s] := by
  obtain ⟨a, b, hs, ha, hb⟩ := Text.exists_trim s
  calc identifiers s = identifiers (a ++ (Text.trim s ++ b)) := by rw [← hs]
    _ = identifiers (Text.trim s) := by
      rw [identifiers_blanks_append ha, identifiers_append_blanks hb]
    _ = [Text.trim s] := identifiers_of_isName h

/-- No identifier goes over a separator. -/
theorem identifiers_pieces (hx : words.contains x = false) (s : Text) :
    identifiers s = (Text.pieces x s).flatMap identifiers := by
  induction s using Text.cut_induction (x := x) with
  | whole s hs => simp [Text.pieces_of_not_mem hs]
  | cut a b ha ih =>
    rw [identifiers_append_cons hx, Text.pieces_append_cons, Text.pieces_of_not_mem ha, ih]
    rfl

/-- The pieces of a parameter list are its identifiers with blanks around them. -/
theorem trim_pieces_eq (hn : IsName n) (hr : Rounds NextName r) :
    (Text.pieces ',' (n ++ r)).map Text.trim = identifiers (n ++ r)
      ∧ ∃ ns, identifiers (n ++ r) = n :: ns ∧ ∀ m ∈ ns, IsName m := by
  obtain ⟨ns, hns, hall⟩ := trimmed_pieces hr (List.forall_mem_nil _) hn
  rw [List.nil_append] at hns
  have hnames : ∀ p ∈ Text.pieces ',' (n ++ r), IsName (Text.trim p) := fun p hp => by
    have hmem : Text.trim p ∈ n :: ns := hns ▸ List.mem_map_of_mem hp
    exact (List.forall_mem_cons.2 ⟨hn, hall⟩) _ hmem
  have hcomma : words.contains ',' = false :=
    Bool.eq_false_iff.2 (not_words_of_mem_marks ',' (by decide))
  have heq : (Text.pieces ',' (n ++ r)).map Text.trim = identifiers (n ++ r) := by
    rw [identifiers_pieces hcomma, List.flatMap_congr fun p hp => identifiers_of_trim (hnames p hp),
      List.map_eq_flatMap]
  exact ⟨heq, ns, heq ▸ hns, hall⟩

/-! ## What is kept -/

/-- The characters of a text that are not blank, from the left. -/
def solid (s : Text) : Text := s.filter fun c => !Text.isBlank c

theorem solid_append (a b : Text) : solid (a ++ b) = solid a ++ solid b := List.filter_append ..

theorem solid_of_blanks (ha : ∀ c ∈ a, Text.isBlank c = true) : solid a = [] :=
  List.filter_eq_nil_iff.2 fun c hc => by simp [ha c hc]

theorem solid_sublist_trim (s : Text) : (solid s).Sublist (Text.trim s) := by
  obtain ⟨a, b, hs, ha, hb⟩ := Text.exists_trim s
  have heq : solid s = solid (Text.trim s) := by
    conv_lhs => rw [hs]
    rw [solid_append, solid_append, solid_of_blanks ha, solid_of_blanks hb, List.nil_append,
      List.append_nil]
  exact heq ▸ List.filter_sublist

/-- Writing the pieces of a text between commas anew, each with its type, loses blanks only. -/
theorem solid_sublist_join (s : Text) : (solid s).Sublist
    (Text.join ", ".toList ((Text.pieces ',' s).map fun p => Text.trim p ++ ": any".toList)) := by
  induction s using Text.cut_induction (x := ',') with
  | whole s hs =>
    rw [Text.pieces_of_not_mem hs]
    exact (solid_sublist_trim s).trans (List.sublist_append_left _ _)
  | cut a b ha ih =>
    have hne : (Text.pieces ',' b).map (fun p => Text.trim p ++ ": any".toList) ≠ [] := by
      simp [Text.pieces_ne_nil]
    have hcomma : solid (',' :: b) = [','] ++ solid b := rfl
    have hsep : [','].Sublist ", ".toList := by decide
    rw [Text.pieces_append_cons, Text.pieces_of_not_mem ha, List.singleton_append, List.map_cons,
      Text.join_cons hne, solid_append, hcomma, List.append_assoc]
    exact ((solid_sublist_trim a).trans (List.sublist_append_left _ _)).append (hsep.append ih)

theorem solid_arrowParameters {l c mid u : Text} (h : ArrowParameters a l b c mid)
    (hl : (solid l).Sublist u) : (solid mid).Sublist ('(' :: (u ++ ") =>".toList)) := by
  have hblanks {w : Text} (hw : All blanks w) : solid w = [] :=
    solid_of_blanks fun c hc => contains_blanks.1 (hw c hc)
  have hmid : solid mid = '(' :: (solid l ++ [')', '=', '>']) := by
    have hopen (w : Text) : solid ('(' :: w) = '(' :: solid w := rfl
    have hclose (w : Text) : solid (')' :: w) = ')' :: solid w := rfl
    have harrow : solid ['=', '>'] = ['=', '>'] := rfl
    rw [h.eq, hopen, solid_append, solid_append, solid_append, hclose, solid_append,
      hblanks h.before, hblanks h.after, hblanks h.arrow, harrow]
    rfl
  have harrow : [')', '=', '>'].Sublist ") =>".toList := by decide
  rw [hmid]
  exact (hl.append harrow).cons_cons '('

/-! ## The rule -/

/-- The names in the parameter list of a match, and the list with a type for each of them. -/
structure Annotated (m : Match) (names : List Text) (t : Text) : Prop where
  /-- The names are the identifiers of the list, which has only commas and blanks besides. -/
  list : ∃ a l b c, ArrowParameters a l b c m.text ∧ m.group? 1 = .some l ∧ names = identifiers l
  /-- There is a name. -/
  ne_nil : names ≠ []
  /-- No name is empty or has a blank. -/
  isName : ∀ n ∈ names, IsName n ∧ ∀ c ∈ n, Text.isBlank c = false
  /-- The names keep their order. -/
  text : t = '(' :: (declared names ++ ") =>".toList)
  /-- Only blanks are deleted. -/
  kept : (solid m.text).Sublist t

theorem IsName.isBlank (hn : IsName n) : ∀ c ∈ n, Text.isBlank c = false := fun c hc =>
  Bool.eq_false_iff.2 fun hblank => by
    have hword := hn.words c hc
    rw [not_word_of_isBlank hblank] at hword
    cases hword

/-- The list of every match is written anew. -/
theorem annotated_of_mem (hm : m ∈ arrowParameters.pattern.matches s) :
    ∃ names t, annotateParameters m = .ok t ∧ Annotated m names t := by
  obtain ⟨pre, mid, post, gs, rfl, hchosen⟩ := (stand_matches _ s).chosen_of_mem hm
  obtain ⟨a, l, b, c, hmid, rfl⟩ := spans_arrowParameters.1 hchosen.spans
  obtain ⟨n, r, hn, hr, rfl⟩ := hmid.names
  obtain ⟨hpieces, ns, hns, hall⟩ := trim_pieces_eq hn hr
  have hdeclared : declared (identifiers (n ++ r)) = Text.join ", ".toList
      ((Text.pieces ',' (n ++ r)).map fun p => Text.trim p ++ ": any".toList) := by
    rw [declared, ← hpieces, List.map_map]
    rfl
  refine ⟨identifiers (n ++ r), '(' :: (declared (identifiers (n ++ r)) ++ ") =>".toList), ?_, ?_⟩
  · rw [hdeclared]
    rfl
  · constructor
    case list => exact ⟨a, n ++ r, b, c, hmid, rfl, rfl⟩
    case ne_nil => simp [hns]
    case isName =>
      rw [hns]
      intro k hk
      have hk : IsName k := List.forall_mem_cons.2 ⟨hn, hall⟩ k hk
      exact ⟨hk, hk.isBlank⟩
    case text => rfl
    case kept =>
      rw [hdeclared]
      exact solid_arrowParameters hmid (solid_sublist_join (n ++ r))

/-- A new list has colons, and a list without types has none. -/
theorem Annotated.ne {names : List Text} (h : Annotated m names t) : t ≠ m.text := by
  intro heq
  obtain ⟨a, l, b, c, hmid, -, -⟩ := h.list
  obtain ⟨y, hy, hcolon⟩ := hmid.ends
  obtain ⟨n, ns, hnames⟩ := List.exists_cons_of_ne_nil h.ne_nil
  have hmem : ':' ∈ t := by
    rw [h.text, hnames]
    cases ns with
    | nil => simp [declared_singleton]
    | cons k ns => simp [declared_cons_cons]
  rw [heq, hy] at hmem
  simp [hcolon ':' (by decide)] at hmem

/-- The rule for arrow functions never fails.  Every match becomes a list with the same identifiers in
the same order, each with its type, and every match is a fix.  The text outside of matches stays, and
in a match only blanks are deleted. -/
theorem parameters_annotated : ∃ catalog, builtin = .ok catalog
    ∧ ∃ step ∈ catalog.steps, ∃ r ∈ step.rules, r.name = "Implicit any arrow parameters"
      ∧ ∀ s, (∀ m ∈ r.pattern.matches s,
          ∃ names t, annotateParameters m = .ok t ∧ Annotated m names t)
        ∧ ∃ gap ps, r.Cut s gap ps ∧ r.apply s = .ok (Piece.rewritten gap ps, ps.length)
          ∧ ∀ p ∈ ps, annotateParameters p.occurrence = .ok p.replacement := by
  have hstep : missingTypesStep ∈ steps := by simp [steps]
  have hrule : arrowParameters ∈ missingTypesStep.rules := by simp [missingTypesStep]
  refine ⟨⟨steps⟩, builtin_eq, missingTypesStep, hstep, arrowParameters, hrule, rfl, fun s =>
    ⟨fun m => annotated_of_mem, ?_⟩⟩
  have htotal : ∀ m ∈ arrowParameters.pattern.matches s, ∃ t,
      arrowParameters.transform.replacement arrowParameters.pattern m = .ok t := fun m hm =>
    let ⟨_, t, ht, _⟩ := annotated_of_mem hm
    ⟨t, ht⟩
  obtain ⟨out, fixes, happly⟩ := exists_of_total htotal
  obtain ⟨gap, ps, hcut, rfl, rfl⟩ := cut_of_apply happly
  have hfix : ∀ p ∈ ps, p.isFix = true := fun p hp => by
    have hmem : p.occurrence ∈ arrowParameters.pattern.matches s :=
      hcut.matched ▸ List.mem_map_of_mem hp
    obtain ⟨names, t, ht, hannotated⟩ := annotated_of_mem hmem
    obtain rfl : t = p.replacement := Except.ok.inj (ht.symm.trans (hcut.replaced p hp))
    exact Piece.isFix_eq_true.2 hannotated.ne
  have hcount : Piece.fixes ps = ps.length := List.countP_eq_length.2 hfix
  exact ⟨gap, ps, hcut, hcount ▸ happly, hcut.replaced⟩

example : (arrowParameters.apply "f(( name\t,x_é)=> 0)".toList).toOption
    = .some ("f((name: any, x_é: any) => 0)".toList, 1) := by decide +kernel

end SourceMend.Catalog.Builtin
