import SourceMend.Proofs.Diff.Lines

/-!
# A difference shows the whole change

The text of a difference is read back as it is meant: `...` divides it into groups of rows,
and every row bears a sign (`groupsOf`).  Without the rows that come, a group shows a stretch
of the old lines, and without the rows that go, the stretch of the new lines in its place
(`Shows`).  Everything that stands between these stretches is the same in both texts
(`AgreeBut`), as the parts of a script leave out unchanged lines only
(`agreeBut_partsFrom`).  So the groups make the old text into the new one
(`unified_shows`).
-/

namespace SourceMend.Diff

variable {γ δ : Type} {R : γ → List Text → List Text → Prop} {R' : δ → List Text → List Text → Prop}
  {x : γ} {xs : List γ} {old new as bs group : List Text} {p : List Stretch} {ss : List Stretch}
  {a b : Text}

/-! ## Lists that agree but for some blocks -/

/-- That two lists are the same but for blocks in which they differ as some things tell, one after
another. -/
inductive AgreeBut (R : γ → List Text → List Text → Prop) :
    List γ → List Text → List Text → Prop where
  /-- After the last block they are the same. -/
  | rest (same : List Text) : AgreeBut R [] same same
  /-- Before a block they are the same. -/
  | block {x : γ} {xs : List γ} {old new as bs : List Text} (same : List Text) : R x old new →
      AgreeBut R xs as bs → AgreeBut R (x :: xs) (same ++ old ++ as) (same ++ new ++ bs)

namespace AgreeBut

/-- What both lists begin with can be more. -/
theorem append_left (h : AgreeBut R xs as bs) (same : List Text) :
    AgreeBut R xs (same ++ as) (same ++ bs) := by
  cases h with
  | rest => exact .rest _
  | block before hx hxs =>
    rw [← List.append_assoc, ← List.append_assoc, ← List.append_assoc, ← List.append_assoc]
    exact .block (same ++ before) hx hxs

/-- A block at the start. -/
theorem cons (hx : R x old new) (h : AgreeBut R xs as bs) :
    AgreeBut R (x :: xs) (old ++ as) (new ++ bs) :=
  .block [] hx h

/-- Other things tell of the same blocks if each tells what the first does. -/
theorem map {f : γ → δ} (h : AgreeBut R xs as bs)
    (hf : ∀ x old new, R x old new → R' (f x) old new) : AgreeBut R' (xs.map f) as bs := by
  induction h with
  | rest same => exact .rest same
  | block same hx _ ih => exact .block same (hf _ _ _ hx) ih

/-- What is told of is a block of the two lists. -/
theorem exists_of_mem (h : AgreeBut R xs as bs) (hx : x ∈ xs) :
    ∃ old new, R x old new ∧ old ⊆ as ∧ new ⊆ bs := by
  induction h with
  | rest same => cases hx
  | @block y ys old new as bs same hy _ ih =>
    rcases List.mem_cons.1 hx with rfl | hx
    · exact ⟨old, new, hy, fun _ hl => by simp [hl], fun _ hl => by simp [hl]⟩
    · obtain ⟨old', new', hR, hold, hnew⟩ := ih hx
      exact ⟨old', new', hR, fun _ hl => by simp [hold hl], fun _ hl => by simp [hnew hl]⟩

end AgreeBut

/-! ## Parts -/

/-- That a part of a script goes from some lines to others. -/
def Covers (p : List Stretch) (old new : List Text) : Prop :=
  p.flatMap Stretch.old = old ∧ p.flatMap Stretch.new = new

theorem covers_flatMap (p : List Stretch) :
    Covers p (p.flatMap Stretch.old) (p.flatMap Stretch.new) := ⟨rfl, rfl⟩

theorem AgreeBut.singleton (p : List Stretch) (same : List Text) : AgreeBut Covers [p]
    (p.flatMap Stretch.old ++ same) (p.flatMap Stretch.new ++ same) :=
  .cons (covers_flatMap p) (.rest same)

/-- Between the parts unchanged lines are left out, and nothing else. -/
theorem agreeBut_partsFrom (part ss : List Stretch) : AgreeBut Covers (partsFrom part ss)
    ((part ++ ss).flatMap Stretch.old) ((part ++ ss).flatMap Stretch.new) := by
  fun_induction partsFrom part ss with
  | case1 part => simpa using AgreeBut.singleton part []
  | case2 part xs =>
    have h := AgreeBut.singleton (part ++ [.same (xs.take context)]) (xs.drop context)
    simpa [Stretch.old, Stretch.new] using h
  | case3 part xs r _ hlong ih =>
    -- the lines between the first few and the last few are left out
    have hmiddle : xs.drop context = (xs.drop context).take (xs.length - 2 * context)
        ++ leading xs := by
      have hcut : xs.length - context = context + (xs.length - 2 * context) := by omega
      rw [leading, hcut, ← List.drop_drop, List.take_append_drop]
    have h := AgreeBut.cons (covers_flatMap (part ++ [.same (xs.take context)]))
      (ih.append_left ((xs.drop context).take (xs.length - 2 * context)))
    have hall (l : List Text) : l ++ xs.take context ++ xs.drop context = l ++ xs := by
      rw [List.append_assoc, List.take_append_drop]
    simpa [Stretch.old, Stretch.new, ← hmiddle, ← List.append_assoc, hall] using h
  | case4 part xs r _ _ ih => simpa using ih
  | case5 part s r _ _ ih => simpa using ih

theorem agreeBut_parts (ss : List Stretch) :
    AgreeBut Covers (parts ss) (ss.flatMap Stretch.old) (ss.flatMap Stretch.new) := by
  unfold parts
  split
  · exact .rest []
  · next xs => simpa [Stretch.old, Stretch.new] using AgreeBut.rest xs
  · next xs r _ =>
    have h := (agreeBut_partsFrom [.same (leading xs)] r).append_left
      (xs.take (xs.length - context))
    simpa [Stretch.old, Stretch.new, leading, ← List.append_assoc] using h
  · exact agreeBut_partsFrom [] _

/-! ## Rows -/

/-- The rows that show a stretch. -/
def Stretch.rows : Stretch → List Text
  | same xs => xs.map (showLine ' ')
  | changed xs ys => xs.map (showLine '-') ++ ys.map (showLine '+')

theorem Stretch.flatten_rows (s : Stretch) : s.rows.flatten = s.show := by
  cases s <;> simp [rows, Stretch.show, List.flatMap]

theorem flatten_flatMap_rows (p : List Stretch) :
    (p.flatMap Stretch.rows).flatten = p.flatMap Stretch.show := by
  induction p with
  | nil => rfl
  | cons s p ih =>
    rw [List.flatMap_cons, List.flatten_append, s.flatten_rows, ih, List.flatMap_cons]

/-- A row of a part shows one of its lines with a sign. -/
theorem exists_of_mem_rows {row : Text} (h : row ∈ p.flatMap Stretch.rows) :
    ∃ sign ∈ [' ', '-', '+'], ∃ line, row = showLine sign line
      ∧ (line ∈ p.flatMap Stretch.old ∨ line ∈ p.flatMap Stretch.new) := by
  obtain ⟨s, hs, hrow⟩ := List.mem_flatMap.1 h
  have hold {line : Text} (hl : line ∈ s.old) : line ∈ p.flatMap Stretch.old :=
    List.mem_flatMap.2 ⟨s, hs, hl⟩
  have hnew {line : Text} (hl : line ∈ s.new) : line ∈ p.flatMap Stretch.new :=
    List.mem_flatMap.2 ⟨s, hs, hl⟩
  cases s with
  | same xs =>
    obtain ⟨line, hl, rfl⟩ := List.mem_map.1 hrow
    exact ⟨' ', by simp, line, rfl, .inl (hold hl)⟩
  | changed xs ys =>
    rcases List.mem_append.1 hrow with hrow | hrow
    · obtain ⟨line, hl, rfl⟩ := List.mem_map.1 hrow
      exact ⟨'-', by simp, line, rfl, .inl (hold hl)⟩
    · obtain ⟨line, hl, rfl⟩ := List.mem_map.1 hrow
      exact ⟨'+', by simp, line, rfl, .inr (hnew hl)⟩

theorem isRow_of_mem_rows (hold : ∀ line ∈ p.flatMap Stretch.old, IsLine line)
    (hnew : ∀ line ∈ p.flatMap Stretch.new, IsLine line) :
    ∀ row ∈ p.flatMap Stretch.rows, IsRow row ∧ row ≠ gap := by
  intro row hrow
  obtain ⟨sign, hsign, line, rfl, hline⟩ := exists_of_mem_rows hrow
  have hsigns : ∀ sign ∈ [' ', '-', '+'], sign ≠ '\n' ∧ sign ≠ '\r' ∧ sign ≠ '.' := by simp
  obtain ⟨hfeed, hreturn, hdot⟩ := hsigns sign hsign
  exact ⟨isRow_showLine (hline.elim (hold line) (hnew line)) hfeed hreturn,
    fun hgap => hdot (List.cons.inj hgap).1⟩

/-! ## Reading a difference -/

/-- The groups of rows in the text of a difference, which the row `...` divides. -/
def groupsOf (d : Text) : List (List Text) := if d = [] then [] else (linesOf d).splitOn gap

/-- The lines that the rows of a group show, but for those with a certain sign. -/
def without (sign : Char) (group : List Text) : List Text :=
  (group.filter fun row => row.head? ≠ some sign).map List.tail

/-- A line with its terminator, or a line feed if it has none. -/
def terminated (line : Text) : Text := line ++ (if isTerminated line then [] else ['\n'])

/-- That a group of rows shows how some lines become others. -/
structure Shows (group old new : List Text) : Prop where
  /-- Every row bears a sign. -/
  signed : ∀ row ∈ group, ∃ sign ∈ [' ', '-', '+'], row.head? = some sign
  /-- Without what comes, the rows show the old lines. -/
  old : without '+' group = old.map terminated
  /-- Without what goes, the rows show the new lines. -/
  new : without '-' group = new.map terminated

@[simp] theorem without_append (sign : Char) (g h : List Text) :
    without sign (g ++ h) = without sign g ++ without sign h := by
  simp [without]

/-- Rows that all bear one sign show their lines, or nothing if it is the sign left out. -/
@[simp] theorem without_map_showLine (sign sign' : Char) (xs : List Text) :
    without sign (xs.map (showLine sign')) = if sign' = sign then [] else xs.map terminated := by
  have hhead (line : Text) : (showLine sign' line).head? = some sign' := rfl
  split
  · next h =>
    subst h
    have hnone : (xs.map (showLine sign')).filter (fun row => row.head? ≠ some sign') = [] :=
      List.filter_eq_nil_iff.2 (List.forall_mem_map.2 fun line _ => by simp [hhead])
    rw [without, hnone, List.map_nil]
  · next h =>
    have hall : (xs.map (showLine sign')).filter (fun row => row.head? ≠ some sign)
        = xs.map (showLine sign') :=
      List.filter_eq_self.2 (List.forall_mem_map.2 fun line _ => by simp [hhead, h])
    rw [without, hall, List.map_map]
    rfl

theorem without_rows (p : List Stretch) :
    without '+' (p.flatMap Stretch.rows) = (p.flatMap Stretch.old).map terminated
      ∧ without '-' (p.flatMap Stretch.rows) = (p.flatMap Stretch.new).map terminated := by
  induction p with
  | nil => exact ⟨rfl, rfl⟩
  | cons s p ih =>
    rw [List.flatMap_cons, without_append, without_append, ih.1, ih.2]
    cases s <;> simp [Stretch.rows, Stretch.old, Stretch.new]

/-- The rows of a part show what it covers. -/
theorem Covers.shows (h : Covers p old new) : Shows (p.flatMap Stretch.rows) old new := by
  obtain ⟨rfl, rfl⟩ := h
  refine ⟨fun row hrow => ?_, (without_rows p).1, (without_rows p).2⟩
  obtain ⟨sign, hsign, line, rfl, -⟩ := exists_of_mem_rows hrow
  exact ⟨sign, hsign, rfl⟩

theorem join_map_flatten (sep : Text) (gs : List (List Text)) :
    Text.join sep (gs.map List.flatten) = ([sep].intercalate gs).flatten := by
  induction gs with
  | nil => rfl
  | cons g gs ih =>
    cases gs with
    | nil => simp [Text.join]
    | cons h gs =>
      rw [List.intercalate_cons_cons, List.flatten_append, List.flatten_append, ← ih,
        List.flatten_singleton, List.map_cons, List.map_cons, Text.join]

theorem mem_intercalate {sep row : Text} {gs : List (List Text)}
    (h : row ∈ [sep].intercalate gs) : row = sep ∨ ∃ g ∈ gs, row ∈ g := by
  induction gs with
  | nil => simp at h
  | cons g gs ih =>
    cases gs with
    | nil => exact .inr ⟨g, by simp, by simpa using h⟩
    | cons g' gs =>
      rw [List.intercalate_cons_cons, List.append_assoc, List.mem_append, List.mem_append,
        List.mem_singleton] at h
      rcases h with h | rfl | h
      · exact .inr ⟨g, List.mem_cons_self, h⟩
      · exact .inl rfl
      · exact (ih h).imp_right fun ⟨k, hk, hrow⟩ => ⟨k, List.mem_cons_of_mem g hk, hrow⟩

/-- Groups of rows are read back from the text that they make up. -/
theorem groupsOf_join {gs : List (List Text)} (hgs : Text.join gap (gs.map List.flatten) ≠ [])
    (hrows : ∀ g ∈ gs, ∀ row ∈ g, IsRow row) (hgap : ∀ g ∈ gs, gap ∉ g) :
    groupsOf (Text.join gap (gs.map List.flatten)) = gs := by
  have hall : ∀ row ∈ [gap].intercalate gs, IsRow row := fun row hrow => by
    rcases mem_intercalate hrow with rfl | ⟨g, hg, hrow⟩
    · exact isRow_gap
    · exact hrows g hg row hrow
  have hne : gs ≠ [] := by
    rintro rfl
    exact hgs rfl
  rw [groupsOf, if_neg hgs, join_map_flatten, linesOf_flatten hall,
    List.splitOn_intercalate gap hgap hne]

/-! ## The difference -/

/-- Equal texts have no difference to show. -/
theorem unified_self (a : Text) : unified a a = [] := by
  have hparts : parts (stretches (Script.keeping (linesOf a))) = [] := by
    unfold Script.keeping
    split
    · rfl
    · rfl
  rw [unified, Script.between_self, Script.settle_keeping, hparts]
  rfl

theorem unified_eq (a b : Text) : unified a b = Text.join gap
    (((parts (stretches (Script.between (linesOf a) (linesOf b)).settle)).map
      fun p => p.flatMap Stretch.rows).map List.flatten) := by
  simp only [unified, List.map_map, Function.comp_def, flatten_flatMap_rows]

/-- The groups that are read from a difference are the parts of its script. -/
theorem agreeBut_groupsOf (h : a ≠ b) :
    AgreeBut Shows (groupsOf (unified a b)) (linesOf a) (linesOf b) := by
  have hturns := Script.turns_settle (Script.turns_between (linesOf a) (linesOf b))
  have hparts := agreeBut_parts (stretches (Script.between (linesOf a) (linesOf b)).settle)
  rw [old_stretches, new_stretches, hturns.old, hturns.new] at hparts
  have hne := unified_ne_nil h
  rw [unified_eq] at hne ⊢
  have hrow : ∀ p ∈ parts (stretches (Script.between (linesOf a) (linesOf b)).settle),
      ∀ row ∈ p.flatMap Stretch.rows, IsRow row ∧ row ≠ gap := by
    intro p hp
    obtain ⟨old, new, ⟨rfl, rfl⟩, hold, hnew⟩ := hparts.exists_of_mem hp
    exact isRow_of_mem_rows (fun line hl => isLine_of_mem_linesOf (hold hl))
      fun line hl => isLine_of_mem_linesOf (hnew hl)
  rw [groupsOf_join hne]
  · exact hparts.map fun p old new hcovers => hcovers.shows
  · exact List.forall_mem_map.2 fun p hp row hmem => (hrow p hp row hmem).1
  · exact List.forall_mem_map.2 fun p hp hmem => (hrow p hp gap hmem).2 rfl

/-- The difference of two texts is empty exactly if they are equal.  Its groups show blocks of the
old lines, one after another, with the new lines in their place, and before, between and after the
blocks the lines of both texts are the same.  So the new lines in place of the old ones make up the
new text. -/
theorem unified_shows (a b : Text) :
    (unified a b = [] ↔ a = b)
      ∧ AgreeBut Shows (groupsOf (unified a b)) (linesOf a) (linesOf b)
      ∧ (linesOf a).flatten = a ∧ (linesOf b).flatten = b := by
  refine ⟨⟨fun h => ?_, ?_⟩, ?_, flatten_linesOf a, flatten_linesOf b⟩
  · exact Classical.byContradiction fun hne => unified_ne_nil hne h
  · rintro rfl
    exact unified_self a
  · by_cases h : a = b
    · subst h
      rw [unified_self]
      exact .rest (linesOf a)
    · exact agreeBut_groupsOf h

/-- A line feed that comes at the end shows as another last line. -/
example : unified "x\r\na".toList "x\r\na\n".toList = " x\r\n-a\n+a\n".toList
    ∧ groupsOf " x\r\n-a\n+a\n".toList = [[" x\r\n".toList, "-a\n".toList, "+a\n".toList]] := by
  decide +kernel

end SourceMend.Diff
