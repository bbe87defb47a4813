import Mathlib.Data.List.Chain
import SourceMend.Proofs.CharSet
import SourceMend.Unicode.Property

/-!
# Word characters and blanks

The ranges of both sets are ordered, so a character is in a set if one of its ranges has it, and no
character is in both sets.
-/

namespace SourceMend.Unicode

theorem ordered_wordChars : CharSet.Ordered wordChars.ranges :=
  List.isChain_iff_pairwise.1 (by decide +kernel)

theorem ordered_blanks : CharSet.Ordered blanks.ranges := by decide

theorem contains_blanks {c : Char} : blanks.contains c = true ↔ Text.isBlank c = true := by
  rw [CharSet.contains, CharSet.inRanges_iff ordered_blanks]
  simp [CharSet.Covers, Text.isBlank, blanks]

theorem not_word_of_blank {c : Char} (h : blanks.contains c = true) :
    wordChars.contains c = false := by
  have hall : ∀ r ∈ Text.blankRanges, ∀ n ∈ List.range' r.1 (r.2 + 1 - r.1),
      CharSet.inRanges n wordRanges = false := by decide +kernel
  obtain ⟨r, hr, hle, hge⟩ := (CharSet.inRanges_iff ordered_blanks).1 h
  exact hall r hr c.toNat (List.mem_range'_1.2 ⟨hle, by omega⟩)

end SourceMend.Unicode
