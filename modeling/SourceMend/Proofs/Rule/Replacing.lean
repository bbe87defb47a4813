import Mathlib.Data.List.Basic
import SourceMend.Proofs.Rule.Rewriting

/-!
# Replacing all matches

A text is cut at the matches of a rule into *pieces*: a match with its replacement and
the text up to the next match (`Cut`).  The text after the rule has the replacements in
place of the matches, and the fixes are the replacements that differ from their matches
(`apply_replaces_all`).  This holds of every pattern, also one that matches the empty
text, and of every transform that refuses no match.
-/

namespace SourceMend.Rule

open Pattern

/-- A match with its replacement and the text from it to the next match. -/
structure Piece where
  /-- The match. -/
  occurrence : Match
  /-- What it is replaced by. -/
  replacement : Text
  /-- What stands between it and the next match. -/
  after : Text

namespace Piece

/-- The text in which the matches stand, `gap` before the first. -/
def original (gap : Text) (ps : List Piece) : Text :=
  gap ++ ps.flatMap fun p => p.occurrence.text ++ p.after

/-- The text with the replacements in place of the matches. -/
def rewritten (gap : Text) (ps : List Piece) : Text :=
  gap ++ ps.flatMap fun p => p.replacement ++ p.after

/-- Whether a replacement differs from its match. -/
def isFix (p : Piece) : Bool := p.replacement != p.occurrence.text

/-- The number of replacements that differ from their matches. -/
def fixes (ps : List Piece) : Nat := ps.countP isFix

variable {gap : Text} {p : Piece} {ps : List Piece}

theorem original_cons : original gap (p :: ps)
    = gap ++ (p.occurrence.text ++ original p.after ps) := by
  simp [original]

theorem rewritten_cons : rewritten gap (p :: ps)
    = gap ++ (p.replacement ++ rewritten p.after ps) := by
  simp [rewritten]

theorem fixes_cons : fixes (p :: ps) = fixes ps + if p.isFix then 1 else 0 := List.countP_cons

theorem isFix_eq_true : p.isFix = true ↔ p.replacement ≠ p.occurrence.text := bne_iff_ne

theorem isFix_eq_false : p.isFix = false ↔ p.replacement = p.occurrence.text := by
  simp [isFix]

/-- Without a fix the text stays as it is. -/
theorem rewritten_of_fixes_eq_zero (h : fixes ps = 0) : rewritten gap ps = original gap ps := by
  have hsame : ∀ p ∈ ps, p.replacement = p.occurrence.text := fun p hp =>
    isFix_eq_false.1 (Bool.eq_false_iff.2 (List.countP_eq_zero.1 h p hp))
  unfold rewritten original
  rw [List.flatMap_congr fun p hp => by rw [hsame p hp]]

end Piece

variable {r : Rule} {s pre tail out gap : Text} {m : Match} {ms : List Match} {ps : List Piece}
  {edits : List (Match × Text)} {fixes : Nat}

/-- The text `tail`, which comes after `pre`, cut at some matches. -/
structure CutAt (r : Rule) (pre tail : Text) (ms : List Match) (gap : Text) (ps : List Piece) :
    Prop where
  /-- These are the matches, from the left. -/
  matched : ps.map Piece.occurrence = ms
  /-- The pieces make up the text. -/
  text : tail = Piece.original gap ps
  /-- Each match stands in the text at its place. -/
  placed : ∀ earlier p later, ps = earlier ++ p :: later →
    p.occurrence.start = (pre ++ Piece.original gap earlier).length
      ∧ p.occurrence.stop = (pre ++ Piece.original gap earlier ++ p.occurrence.text).length
  /-- Each replacement is what the transform makes of the match and its groups. -/
  replaced : ∀ p ∈ ps, r.transform.replacement r.pattern p.occurrence = .ok p.replacement

/-- A text cut at the matches of a rule. -/
abbrev Cut (r : Rule) (s gap : Text) (ps : List Piece) : Prop :=
  r.CutAt [] s (r.pattern.matches s) gap ps

theorem CutAt.cons {mid post t gap' : Text} {gs : Captures}
    (h : r.CutAt (pre ++ gap ++ mid) post ms gap' ps)
    (ht : r.transform.replacement r.pattern
      ⟨(pre ++ gap).length, (pre ++ gap ++ mid).length, mid, gs⟩ = .ok t) :
    r.CutAt pre (gap ++ (mid ++ post))
      (⟨(pre ++ gap).length, (pre ++ gap ++ mid).length, mid, gs⟩ :: ms) gap
      (⟨⟨(pre ++ gap).length, (pre ++ gap ++ mid).length, mid, gs⟩, t, gap'⟩ :: ps) where
  matched := by rw [List.map_cons, h.matched]
  text := by rw [Piece.original_cons, ← h.text]
  placed := by
    intro earlier p later hps
    cases earlier with
    | nil =>
      obtain ⟨rfl, -⟩ := List.cons.inj hps
      simp [Piece.original]
    | cons q earlier =>
      obtain ⟨rfl, rfl⟩ := List.cons.inj hps
      obtain ⟨hstart, hstop⟩ := h.placed earlier p later rfl
      rw [Piece.original_cons, hstart, hstop]
      simp
  replaced := List.forall_mem_cons.2 ⟨ht, h.replaced⟩

/-- What a rule makes of matches that stand in a text. -/
theorem cut_of_stand (h : Stand r.pattern.node pre tail ms) (hedits : ms.mapM r.edit = .ok edits) :
    ∃ gap ps, r.CutAt pre tail ms gap ps
      ∧ splice pre.length tail edits = Piece.rewritten gap ps
      ∧ (edits.filter fun e => e.2 != e.1.text).length = Piece.fixes ps := by
  induction h generalizing edits with
  | @nil pre tail =>
    cases hedits
    refine ⟨tail, [], ⟨rfl, by simp [Piece.original], ?_, fun p hp => nomatch hp⟩, ?_, rfl⟩
    · intro earlier p later hps
      simp at hps
    · simp [splice, Piece.rewritten]
  | @cons pre gap mid post gs ms _ _ ih =>
    obtain ⟨t, rest, rfl, ht, hrest⟩ := mapM_edit_cons hedits
    obtain ⟨gap', ps, hcut, hsplice, hfixes⟩ := ih hrest
    refine ⟨gap, _, hcut.cons ht, ?_, ?_⟩
    · rw [splice_cons, hsplice, Piece.rewritten_cons]
    · rw [Piece.fixes_cons, ← hfixes, List.filter_cons, Piece.isFix]
      split <;> simp

/-- What a rule makes of a text if it refuses no match. -/
theorem cut_of_apply (h : r.apply s = .ok (out, fixes)) :
    ∃ gap ps, r.Cut s gap ps ∧ out = Piece.rewritten gap ps ∧ fixes = Piece.fixes ps := by
  obtain ⟨edits, hedits, hfixes, hout⟩ := apply_eq_ok h
  obtain ⟨gap, ps, hcut, hsplice, hcount⟩ := cut_of_stand (stand_matches r.pattern s) hedits
  rw [← hfixes] at hcount
  refine ⟨gap, ps, hcut, ?_, hcount⟩
  split at hout
  next hzero =>
    have hnone : Piece.fixes ps = 0 := hcount.symm.trans hzero
    rw [hout, Piece.rewritten_of_fixes_eq_zero hnone, ← hcut.text]
  next => exact hout.trans hsplice

/-- A rule that refuses no match gives a text. -/
theorem exists_of_total (h : ∀ m ∈ r.pattern.matches s, ∃ t,
    r.transform.replacement r.pattern m = .ok t) : ∃ out fixes, r.apply s = .ok (out, fixes) := by
  rcases r.apply_cases s with ⟨-, hrefuses⟩ | ⟨⟨⟨out, fixes⟩, happly⟩, -⟩
  · rw [refuses_eq_false_iff.2 h] at hrefuses
    cases hrefuses
  · exact ⟨out, fixes, happly⟩

/-- A rule that refuses no match replaces all of them and leaves the rest of the text in place.  Its
fixes are the replacements that differ from their matches, and without one the text is given back. -/
theorem apply_replaces_all (r : Rule) (s : Text) (h : ∀ m ∈ r.pattern.matches s, ∃ t,
    r.transform.replacement r.pattern m = .ok t) :
    (∃ gap ps, r.Cut s gap ps ∧ r.apply s = .ok (Piece.rewritten gap ps, Piece.fixes ps)
        ∧ (Piece.fixes ps = 0 → Piece.rewritten gap ps = s))
      ∧ ∀ out, r.apply s = .ok (out, 0) → out = s := by
  obtain ⟨out, fixes, happly⟩ := exists_of_total h
  obtain ⟨gap, ps, hcut, rfl, rfl⟩ := cut_of_apply happly
  have hzero (hnone : Piece.fixes ps = 0) : Piece.rewritten gap ps = s :=
    (Piece.rewritten_of_fixes_eq_zero hnone).trans hcut.text.symm
  refine ⟨⟨gap, ps, hcut, happly, hzero⟩, fun out hout => ?_⟩
  rw [happly] at hout
  obtain ⟨rfl, hnone⟩ := Prod.mk.inj (Except.ok.inj hout)
  exact hzero hnone

/-- A rule that writes two letters for every run of a letter, the empty ones too. -/
def doubling : Rule where
  name := "letters"
  pattern := ⟨"a*", .loop 0 true (.take (.single 'a')), []⟩
  transform := .literal "aa"

/-- Two of three matches are empty, and the third is its own replacement. -/
theorem apply_replaces_all_doubling :
    (∀ m ∈ doubling.pattern.matches "baac".toList, ∃ t,
        doubling.transform.replacement doubling.pattern m = .ok t)
      ∧ (doubling.pattern.matches "baac".toList).map (fun m => (m.start, m.stop))
        = [(0, 0), (1, 3), (4, 4)]
      ∧ (doubling.apply "baac".toList).toOption = some ("aabaacaa".toList, 2)
      ∧ ∃ gap ps, doubling.Cut "baac".toList gap ps
        ∧ doubling.apply "baac".toList = .ok (Piece.rewritten gap ps, Piece.fixes ps) := by
  have htotal : ∀ m ∈ doubling.pattern.matches "baac".toList, ∃ t,
      doubling.transform.replacement doubling.pattern m = .ok t := fun m _ => ⟨_, rfl⟩
  obtain ⟨⟨gap, ps, hcut, happly, -⟩, -⟩ := apply_replaces_all doubling "baac".toList htotal
  exact ⟨htotal, by decide +kernel, by decide +kernel, gap, ps, hcut, happly⟩

end SourceMend.Rule
