import SourceMend.Proofs.Builtin.Patterns
import SourceMend.Proofs.Unicode.Words

/-!
# The characters of the built-in patterns

What the sets of characters in the built-in patterns have in common with each
other and with the marks that the patterns are made of.
-/

namespace SourceMend.Catalog.Builtin

open Unicode

theorem contains_words {c : Char} :
    words.contains c = true ↔ wordChars.contains c = true ∨ c = '$' := by
  rw [words, CharSet.contains_union _ _ ordered_wordChars (CharSet.ordered_single _),
    CharSet.contains_single]

theorem contains_dottedWords {c : Char} :
    dottedWords.contains c = true ↔ wordChars.contains c = true ∨ c ∈ ['$', '.'] := by
  rw [dottedWords, CharSet.contains_union _ _ ordered_wordChars (CharSet.ordered_ofChars _),
    CharSet.contains_ofChars]

theorem contains_operandEnds {c : Char} :
    operandEnds.contains c = true ↔ wordChars.contains c = true ∨ c ∈ ['$', ')', ']'] := by
  rw [operandEnds, CharSet.contains_union _ _ ordered_wordChars (CharSet.ordered_ofChars _),
    CharSet.contains_ofChars]

theorem contains_lineBlanks {c : Char} : lineBlanks.contains c = true ↔ c ∈ [' ', '\t'] :=
  CharSet.contains_ofChars _ c

theorem toNat_le (c : Char) : c.toNat ≤ 0x10FFFF := by
  have hvalid : c.toNat < 0xD800 ∨ 0xDFFF < c.toNat ∧ c.toNat < 0x110000 := c.valid
  omega

theorem contains_arguments {c : Char} :
    arguments.contains c = true ↔ c ∉ ['<', '>', '(', ')'] := by
  have hranges : arguments = ⟨[(0, 39), (42, 59), (61, 61), (63, 0x10FFFF)]⟩ := by decide
  have hle := toNat_le c
  rw [hranges, CharSet.contains, CharSet.inRanges_iff (by decide)]
  simp only [CharSet.Covers, List.mem_cons, List.not_mem_nil, or_false, ← Char.toNat_inj,
    exists_eq_or_imp, exists_eq_left, Char.reduceToNat]
  omega

theorem contains_assigned {c : Char} : assigned.contains c = true ↔ c ≠ '=' ∧ c ≠ '>' := by
  have hranges : assigned = ⟨[(0, 60), (63, 0x10FFFF)]⟩ := by decide
  have hle := toNat_le c
  rw [hranges, CharSet.contains, CharSet.inRanges_iff (by decide)]
  simp only [CharSet.Covers, List.mem_cons, List.not_mem_nil, or_false, ← Char.toNat_inj, ne_eq,
    exists_eq_or_imp, exists_eq_left, Char.reduceToNat]
  omega

/-- Marks that are not part of any word. -/
def marks : List Char :=
  ['(', ')', ']', '<', '>', '!', '?', '.', ':', ',', ';', '=', ' ', '\t', '\n', '\r']

theorem not_word_of_mem_marks : ∀ c ∈ marks, wordChars.contains c = false := by decide

/-- Whether all characters of a text are in a set. -/
abbrev All (s : CharSet) (t : Text) : Prop := ∀ c ∈ t, s.contains c = true

theorem word_of_nameStart {c : Char} (h : nameStarts.contains c = true) :
    words.contains c = true := by
  have hwords : ∀ r ∈ [(0x41, 0x5A), (0x61, 0x7A), (0x5F, 0x5F)], r ∈ wordRanges := by
    decide
  obtain ⟨r, hr, hle, hge⟩ := (CharSet.contains_ofRanges _ c).1 h
  rw [contains_words]
  by_cases hd : r = (0x24, 0x24)
  · subst hd
    exact .inr (Char.toNat_inj.1 (Nat.le_antisymm hge hle))
  · have hr : r ∈ [(0x41, 0x5A), (0x61, 0x7A), (0x5F, 0x5F)] := by simpa [hd] using hr
    exact .inl ((CharSet.inRanges_iff ordered_wordChars).2 ⟨r, hwords r hr, hle, hge⟩)

theorem words_of_nameStarts {t : Text} (h : All nameStarts t) : All words t :=
  fun c hc => word_of_nameStart (h c hc)

theorem word_of_typeStart {c : Char} (h : typeStarts.contains c = true) :
    words.contains c = true := by
  have hwords : (0x41, 0x5A) ∈ wordRanges := by decide
  obtain ⟨r, hr, hle, hge⟩ := (CharSet.contains_ofRanges _ c).1 h
  obtain rfl : r = (0x41, 0x5A) := by simpa using hr
  exact contains_words.2 (.inl ((CharSet.inRanges_iff ordered_wordChars).2 ⟨_, hwords, hle, hge⟩))

theorem not_blank_of_word {c : Char} (h : words.contains c = true) :
    blanks.contains c = false := by
  rcases contains_words.1 h with h | rfl
  · exact Bool.eq_false_iff.2 fun hblank => by simp [not_word_of_blank hblank] at h
  · decide

/-- Whether a text is a name. -/
def IsName (t : Text) : Prop := ∃ c r, nameStarts.contains c = true ∧ All words r ∧ t = c :: r

/-- Whether a text is the name of a type. -/
def IsTypeName (t : Text) : Prop := ∃ c r, typeStarts.contains c = true ∧ All words r ∧ t = c :: r

theorem IsName.words {n : Text} (h : IsName n) : All words n := by
  obtain ⟨c, r, hc, hr, rfl⟩ := h
  exact List.forall_mem_cons.2 ⟨word_of_nameStart hc, hr⟩

theorem IsTypeName.words {n : Text} (h : IsTypeName n) : All words n := by
  obtain ⟨c, r, hc, hr, rfl⟩ := h
  exact List.forall_mem_cons.2 ⟨word_of_typeStart hc, hr⟩

/-! ## Characters that a text does not have -/

theorem not_words_of_mem_marks : ∀ c ∈ marks, ¬ words.contains c = true := by
  intro c hc h
  rcases contains_words.1 h with hword | rfl
  · simp [not_word_of_mem_marks c hc] at hword
  · exact absurd hc (by decide)

theorem not_mem_of_words {a : Text} (ha : All words a) : ∀ c ∈ marks, c ∉ a :=
  fun c hc h => not_words_of_mem_marks c hc (ha c h)

theorem not_mem_of_dottedWords {e : Text} (he : All dottedWords e) :
    ∀ c ∈ marks, c ≠ '.' → c ∉ e := by
  intro c hc hdot h
  rcases contains_dottedWords.1 (he c h) with hword | hmem
  · simp [not_word_of_mem_marks c hc] at hword
  · rcases List.mem_pair.1 hmem with rfl | rfl
    · exact absurd hc (by decide)
    · exact hdot rfl

theorem not_mem_of_blanks {w : Text} {c : Char} (hc : blanks.contains c = false) (hw : All blanks w) :
    c ∉ w := by
  intro h
  simp [hw c h] at hc

theorem ne_of_operandEnds {c d : Char} (hc : operandEnds.contains c = true) (hd : d ∈ marks)
    (hne : d ∉ [')', ']']) : d ≠ c := by
  rintro rfl
  rcases contains_operandEnds.1 hc with hword | hmem
  · simp [not_word_of_mem_marks d hd] at hword
  · rcases List.mem_cons.1 hmem with rfl | hmem
    · exact absurd hd (by decide)
    · exact hne hmem

theorem blank_of_lineBlank {c : Char} (h : lineBlanks.contains c = true) :
    blanks.contains c = true := by
  have hchars : ∀ c ∈ [' ', '\t'], blanks.contains c = true := by decide
  exact hchars c (contains_lineBlanks.1 h)

theorem arguments_of_blanks {w : Text} (hw : All blanks w) : All arguments w := by
  have hchars : ∀ c ∈ ['<', '>', '(', ')'], blanks.contains c = false := by decide
  exact fun c hc => contains_arguments.2 fun h => not_mem_of_blanks (hchars c h) hw hc

end SourceMend.Catalog.Builtin
