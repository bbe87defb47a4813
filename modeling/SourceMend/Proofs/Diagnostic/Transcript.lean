import SourceMend.Checker
import SourceMend.Proofs.Diagnostic.Render
import SourceMend.Proofs.Text.Lines

/-!
# What a checker prints

A *transcript* of some diagnostics is a text that reports them in order, each on
a line of its own, among lines that report nothing.  A line ends with a line
feed, perhaps after a carriage return, and the last line may have no end.  The
diagnostics of a transcript are read back from it (`Transcript.ofText_eq`), so a
checker whose outputs are transcripts has the diagnostics of both
(`diagnostics_of_transcripts`).
-/

namespace SourceMend.Diagnostic

variable {ds es : List Diagnostic} {l s : Text}

/-! ## Reading lines -/

/-- Carriage returns at the end of a line do not matter. -/
theorem parse?_dropReturn (s : Text) : parse? (Text.dropReturn s) = parse? s := by
  rw [parse?, parse?, Text.dropEndWhile_dropReturn]

theorem parse?_append_return (s : Text) : parse? (s ++ ['\r']) = parse? s := by
  rw [parse?, parse?, Text.dropEndWhile_concat]
  rfl

theorem ofText_of_not_mem (h : '\n' ∉ l) : ofText l = (parse? l).toList := by
  rw [ofText, Text.lines_of_not_mem h]
  split
  · next hl =>
    subst hl
    rfl
  · cases hp : parse? l with
    | none => simp [hp]
    | some d => simp [hp]

theorem ofText_append_feed (h : '\n' ∉ l) (s : Text) :
    ofText (l ++ '\n' :: s) = (parse? l).toList ++ ofText s := by
  rw [ofText, Text.lines_append_feed h, List.filterMap_cons, parse?_dropReturn]
  cases parse? l with
  | none => rfl
  | some d => rfl

/-! ## Transcripts -/

/-- What ends a line. -/
inductive LineEnd where
  /-- A line feed. -/
  | feed
  /-- A carriage return and a line feed. -/
  | returnFeed

/-- The characters at the end of a line. -/
def LineEnd.text : LineEnd → Text
  | feed => ['\n']
  | returnFeed => ['\r', '\n']

theorem ofText_append_end (h : '\n' ∉ l) (e : LineEnd) (s : Text) :
    ofText (l ++ (e.text ++ s)) = (parse? l).toList ++ ofText s := by
  cases e with
  | feed => exact ofText_append_feed h s
  | returnFeed =>
    have h' : '\n' ∉ l ++ ['\r'] := by simp [h]
    have hline := ofText_append_feed h' s
    rw [parse?_append_return] at hline
    simpa [LineEnd.text] using hline

/-- A line with what it reports. -/
inductive IsLine : List Diagnostic → Text → Prop where
  /-- A line reports a diagnostic. -/
  | report {d : Diagnostic} : d.WellFormed → IsLine [d] d.render
  /-- A line that is refused reports nothing. -/
  | other {l : Text} : '\n' ∉ l → parse? l = none → IsLine [] l

/-- A text whose lines report some diagnostics in order. -/
inductive Transcript : List Diagnostic → Text → Prop where
  /-- There is no line. -/
  | nil : Transcript [] []
  /-- The last line has no end. -/
  | last {ds : List Diagnostic} {l : Text} : IsLine ds l → Transcript ds l
  /-- A line ends, and others follow. -/
  | cons {ds es : List Diagnostic} {l s : Text} (e : LineEnd) : IsLine ds l → Transcript es s →
      Transcript (ds ++ es) (l ++ (e.text ++ s))

theorem IsLine.feed_not_mem (h : IsLine ds l) : '\n' ∉ l := by
  cases h with
  | report hd => exact feed_not_mem_render hd
  | other hl => exact hl

theorem IsLine.parse?_toList (h : IsLine ds l) : (parse? l).toList = ds := by
  cases h with
  | report hd => rw [parse?_render hd]; rfl
  | other _ hl => rw [hl]; rfl

/-- The diagnostics of a transcript are read back from it. -/
theorem Transcript.ofText_eq (h : Transcript ds s) : ofText s = ds := by
  induction h with
  | nil => rfl
  | last hl => rw [ofText_of_not_mem hl.feed_not_mem, hl.parse?_toList]
  | cons e hl _ ih => rw [ofText_append_end hl.feed_not_mem, hl.parse?_toList, ih]

end SourceMend.Diagnostic

namespace SourceMend.Checker

open Diagnostic (Transcript)

variable {ds es : List Diagnostic} {out err : Text}

/-- A checker whose outputs are transcripts has the diagnostics of the standard output and then
those of the standard error output, however it ends.  It fails only if both report nothing and its
exit code is not zero. -/
theorem diagnostics_of_transcripts (hout : Transcript ds out) (herr : Transcript es err)
    (exit : Option Int) :
    Output.diagnostics ⟨exit, out, err⟩
      = if ds ++ es = [] ∧ exit ≠ some 0 then .error (.unparseable exit) else .ok (ds ++ es) := by
  simp only [Output.diagnostics, hout.ofText_eq, herr.ofText_eq, and_comm]

/-- A diagnostic of a path with a position in its name, with a colon at the end of its code and a
marker in its message. -/
def oddDiagnostic : Diagnostic := ⟨"a (1,2).ts", 30, 4, "TS5:", "b): error c: d"⟩

theorem oddDiagnostic_wellFormed : oddDiagnostic.WellFormed where
  file_ne := by decide
  file_marker := by decide +kernel
  file_feed := by decide +kernel
  line_lt := by decide
  column_lt := by decide
  code_ne := by decide
  code_blank := by decide +kernel
  message_return := by decide +kernel
  message_feed := by decide +kernel

theorem diagnostics_of_transcripts_odd :
    Output.diagnostics ⟨none, "a (1,2).ts(30,4): error TS5:: b): error c: d\r\n\nx".toList,
      "a(3,4): warning\n".toList⟩ = .ok [oddDiagnostic] := by
  have hout : Transcript [oddDiagnostic]
      (oddDiagnostic.render ++ (['\r', '\n'] ++ ([] ++ (['\n'] ++ ['x'])))) :=
    .cons .returnFeed (.report oddDiagnostic_wellFormed)
      (.cons .feed (.other (by decide) rfl) (.last (.other (by decide) rfl)))
  have herr : Transcript [] ("a(3,4): warning".toList ++ (['\n'] ++ [])) :=
    .cons .feed (.other (by decide +kernel) (by decide +kernel)) .nil
  have htexts : "a (1,2).ts(30,4): error TS5:: b): error c: d\r\n\nx".toList
        = oddDiagnostic.render ++ (['\r', '\n'] ++ ([] ++ (['\n'] ++ ['x'])))
      ∧ "a(3,4): warning\n".toList = "a(3,4): warning".toList ++ (['\n'] ++ []) := by
    decide +kernel
  rw [htexts.1, htexts.2]
  exact diagnostics_of_transcripts hout herr none

end SourceMend.Checker
