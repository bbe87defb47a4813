import SourceMend.Proofs.Diagnostic.Grammar

/-!
# Reading a diagnostic back

A diagnostic is *well-formed* when its line shows where its parts end.  Such a
diagnostic is read back from the line that reports it (`parse?_render`).  The
path may hold parentheses, commas and colons, for the opening parenthesis of the
position is the last one before the marker.  The message may hold another
marker, for the first one counts.
-/

namespace SourceMend.Diagnostic

open Text (isBlank ofNat)

variable {d : Diagnostic}

/-- A diagnostic whose parts can be told apart on the line that reports it. -/
structure WellFormed (d : Diagnostic) : Prop where
  /-- There is a path. -/
  file_ne : d.file ≠ ""
  /-- The path does not hold the marker. -/
  file_marker : ¬marker <:+: d.file.toList
  /-- The path stands on one line. -/
  file_feed : '\n' ∉ d.file.toList
  /-- The line number fits into a word. -/
  line_lt : d.line < Text.word32
  /-- The column number fits into a word. -/
  column_lt : d.column < Text.word32
  /-- There is a code. -/
  code_ne : d.code ≠ ""
  /-- The code is one word. -/
  code_blank : ∀ c ∈ d.code.toList, isBlank c = false
  /-- The message does not end like a line. -/
  message_return : d.message.toList.getLast? ≠ some '\r'
  /-- The message stands on one line. -/
  message_feed : '\n' ∉ d.message.toList

/-- The line of a well-formed diagnostic has the parts of the diagnostic. -/
theorem WellFormed.reads (h : d.WellFormed) : Reads d.render d.parts d :=
  reads_render h.file_ne h.file_marker h.line_lt h.column_lt h.code_ne h.code_blank
    h.message_return

/-- A well-formed diagnostic is read back from its line. -/
theorem parse?_render (h : d.WellFormed) : parse? d.render = some d := h.reads.parse?

theorem feed_not_mem_render (h : d.WellFormed) : '\n' ∉ d.render := by
  have hcode : '\n' ∉ d.code.toList := by
    intro hmem
    have hblank := h.code_blank '\n' hmem
    simp [isBlank, Text.blankRanges] at hblank
  have hline : '\n' ∉ ofNat d.line := Text.not_mem_ofNat _ rfl
  have hcolumn : '\n' ∉ ofNat d.column := Text.not_mem_ofNat _ rfl
  simp [render, marker_eq, codeEnd_eq, h.file_feed, h.message_feed, hcode, hline, hcolumn]

end SourceMend.Diagnostic
