import SourceMend.Diagnostic
import SourceMend.Proofs.Text.Cut
import SourceMend.Proofs.Text.Infix
import SourceMend.Proofs.Text.Numeral
import SourceMend.Proofs.Text.Trim

/-!
# The grammar of the lines that report diagnostics

Such a line has five parts and some carriage returns after them:

    file(line,column): error code: message

`Reads s p d` says that the line `s` has the parts `p`, and that these stand for
the diagnostic `d`.  The marker between the position and the code is the
leftmost of the line.  Nothing else keeps the delimiters out of the parts: the
path may hold parentheses and commas, the code colons and the message a marker.

`parse_grammar` says that `parse?` reads this grammar and no other line, that
a line has its parts in one way only, and that the line that `render` writes for
a diagnostic that was read is read as the same diagnostic.
-/

namespace SourceMend.Diagnostic

open Text (isBlank ofNat)

variable {s file code message : Text} {c : Char} {d d' : Diagnostic} {n line column : Nat}

theorem marker_eq : marker = [')', ':', ' ', 'e', 'r', 'r', 'o', 'r', ' '] := by decide

theorem codeEnd_eq : codeEnd = [':', ' '] := by decide

/-! ## The numbers of a position -/

/-- A line or column number: a numeral below 2³² with blanks around it. -/
def IsCoordinate (s : Text) (n : Nat) : Prop :=
  ∃ before numeral after, s = before ++ (numeral ++ after) ∧ (∀ c ∈ before, isBlank c = true)
    ∧ (∀ c ∈ after, isBlank c = true) ∧ Text.IsNumeral numeral n ∧ n < Text.word32

theorem coordinate?_eq_some_iff : coordinate? s = some n ↔ IsCoordinate s n := by
  rw [coordinate?, Text.bounded_eq_some_iff]
  constructor
  · rintro ⟨hnumeral, hlt⟩
    obtain ⟨before, after, hs, hbefore, hafter⟩ := Text.exists_trim s
    exact ⟨before, Text.trim s, after, hs, hbefore, hafter, hnumeral, hlt⟩
  · rintro ⟨before, numeral, after, rfl, hbefore, hafter, hnumeral, hlt⟩
    rw [Text.trim_eq hbefore (fun c hc => hnumeral.isBlank hc) hafter]
    exact ⟨hnumeral, hlt⟩

theorem isCoordinate_ofNat (h : n < Text.word32) : IsCoordinate (ofNat n) n :=
  ⟨[], ofNat n, [], by simp, by simp, by simp, Text.isNumeral_ofNat n, h⟩

theorem IsCoordinate.of_mem (h : IsCoordinate s n) (hc : c ∈ s) :
    isBlank c = true ∨ c.isDigit = true ∨ c = '+' := by
  obtain ⟨before, numeral, after, rfl, hbefore, hafter, hnumeral, -⟩ := h
  rw [List.mem_append, List.mem_append] at hc
  rcases hc with hc | hc | hc
  · exact .inl (hbefore c hc)
  · exact .inr (hnumeral.digit_or_plus hc)
  · exact .inl (hafter c hc)

theorem IsCoordinate.open_not_mem (h : IsCoordinate s n) : '(' ∉ s := fun hmem =>
  absurd (h.of_mem hmem) (by decide)

theorem IsCoordinate.close_not_mem (h : IsCoordinate s n) : ')' ∉ s := fun hmem =>
  absurd (h.of_mem hmem) (by decide)

theorem IsCoordinate.comma_not_mem (h : IsCoordinate s n) : ',' ∉ s := fun hmem =>
  absurd (h.of_mem hmem) (by decide)

/-! ## The parts of a line -/

/-- The parts of a line that reports a diagnostic. -/
@[ext]
structure Parts where
  /-- The path. -/
  file : Text
  /-- The line number and what stands around it. -/
  line : Text
  /-- The column number and what stands around it. -/
  column : Text
  /-- The code. -/
  code : Text
  /-- The message. -/
  message : Text

/-- The line and column with the comma between them. -/
def Parts.position (p : Parts) : Text := p.line ++ ',' :: p.column

/-- What stands before the marker. -/
def Parts.place (p : Parts) : Text := p.file ++ '(' :: p.position

/-- What stands after the marker. -/
def Parts.tag (p : Parts) : Text := p.code ++ (codeEnd ++ p.message)

/-- The parts with their delimiters. -/
def Parts.text (p : Parts) : Text := p.place ++ (marker ++ p.tag)

/-- The line `s` has the parts `p`, which stand for `d`. -/
structure Reads (s : Text) (p : Parts) (d : Diagnostic) : Prop where
  /-- Only carriage returns follow the parts. -/
  ends : ∃ n, s = p.text ++ List.replicate n '\r'
  /-- All carriage returns at the end are among those. -/
  last : p.text.getLast? ≠ some '\r'
  /-- No marker begins further left. -/
  leftmost : ∀ x y, p.text = x ++ (marker ++ y) → p.place.length ≤ x.length
  /-- There is a path. -/
  file_ne : p.file ≠ []
  /-- There is a line number. -/
  line : IsCoordinate p.line d.line
  /-- There is a column number. -/
  column : IsCoordinate p.column d.column
  /-- There is a code. -/
  code_ne : p.code ≠ []
  /-- The code is one word. -/
  code_blank : ∀ c ∈ p.code, isBlank c = false
  /-- The path is that of the diagnostic. -/
  file_eq : d.file = .ofList p.file
  /-- The code is that of the diagnostic. -/
  code_eq : d.code = .ofList p.code
  /-- The message is that of the diagnostic. -/
  message_eq : d.message = .ofList p.message

variable {p p' : Parts}

theorem dropReturns_eq_iff {a : Text} : Text.dropEndWhile (· == '\r') s = a
    ↔ (∃ n, s = a ++ List.replicate n '\r') ∧ a.getLast? ≠ some '\r' := by
  rw [Text.dropEndWhile_eq_iff]
  refine and_congr ⟨?_, ?_⟩ ⟨?_, ?_⟩
  · rintro ⟨b, rfl, hb⟩
    have hreturns : ∀ c ∈ b, c = '\r' := fun c hc => beq_iff_eq.1 (hb c hc)
    exact ⟨b.length, congrArg (a ++ ·) (List.eq_replicate_of_mem hreturns)⟩
  · rintro ⟨n, rfl⟩
    exact ⟨List.replicate n '\r', rfl, fun c hc => beq_iff_eq.2 (List.eq_of_mem_replicate hc)⟩
  · intro ha hlast
    have hne := ha '\r' hlast
    simp at hne
  · intro ha c hc
    refine beq_false_of_ne ?_
    rintro rfl
    exact ha hc

/-! ## Where the line is cut -/

theorem cutLast_place {l c : Text} (hl : IsCoordinate l line) (hc : IsCoordinate c column) :
    Text.cutLast '(' (file ++ '(' :: (l ++ ',' :: c)) = some (file, l ++ ',' :: c) := by
  refine Text.cutLast_append fun hmem => ?_
  rcases List.mem_append.1 hmem with hmem | hmem
  · exact hl.open_not_mem hmem
  · rcases List.mem_cons.1 hmem with hmem | hmem
    · exact absurd hmem (by decide)
    · exact hc.open_not_mem hmem

/-- No blank stands in the code, so the code ends at the first colon with a blank after it. -/
theorem cutAt_tag (hcode : ∀ c ∈ code, isBlank c = false) :
    Text.cutAt codeEnd (code ++ (codeEnd ++ message)) = some (code, message) := by
  refine Text.cutAt_append fun u hu hsuffix hprefix => ?_
  rw [codeEnd_eq] at hprefix
  match u, hu with
  | [c], _ => simp at hprefix
  | c :: c' :: u, _ =>
    obtain ⟨-, hprefix⟩ := List.cons_prefix_cons.1 hprefix
    obtain ⟨rfl, -⟩ := List.cons_prefix_cons.1 hprefix
    have hspace : isBlank ' ' = false := hcode ' ' (hsuffix.subset (by simp))
    simp [isBlank, Text.blankRanges] at hspace

/-- No marker begins before the one after the position: it would hold the opening parenthesis,
unless it were part of the path. -/
theorem cutAt_marker (hline : IsCoordinate p.line line) (hcolumn : IsCoordinate p.column column)
    (hfile : ¬marker <:+: p.file) : Text.cutAt marker p.text = some (p.place, p.tag) := by
  refine Text.cutAt_append fun u hu hsuffix hprefix => ?_
  obtain ⟨w, hw⟩ := hsuffix
  rcases List.append_eq_append_iff.1 hw with ⟨v, hv, rfl⟩ | ⟨v, -, hposition⟩
  · have hprefix' : marker <+: v ++ '(' :: (p.position ++ (marker ++ p.tag)) := by
      simpa using hprefix
    have hmarker : marker <+: v := Text.prefix_of_not_mem (by decide) hprefix'
    exact hfile (hv ▸ List.infix_append_of_infix_right hmarker.isInfix)
  · cases u with
    | nil => exact hu rfl
    | cons c u =>
      rw [marker_eq] at hprefix
      obtain ⟨rfl, -⟩ := List.cons_prefix_cons.1 hprefix
      have hmem : ')' ∈ '(' :: (p.line ++ ',' :: p.column) := hposition ▸ by simp
      simp [hline.close_not_mem, hcolumn.close_not_mem] at hmem

theorem Reads.cutAt_marker (h : Reads s p d) :
    Text.cutAt marker p.text = some (p.place, p.tag) :=
  Text.cutAt_eq_some_iff.2 ⟨rfl, h.leftmost⟩

theorem Reads.not_infix (h : Reads s p d) : ¬marker <:+: p.file := by
  rintro ⟨x, y, hxy⟩
  have htext : p.text = x ++ (marker ++ (y ++ '(' :: (p.position ++ (marker ++ p.tag)))) := by
    simp [Parts.text, Parts.place, ← hxy]
  have hle := h.leftmost x _ htext
  have hlength := congrArg List.length hxy
  simp only [List.length_append] at hlength
  simp only [Parts.place, List.length_append, List.length_cons] at hle
  omega

/-! ## The parser and the grammar -/

theorem location?_eq_some_iff : location? s = some (file, line, column)
    ↔ file ≠ [] ∧ ∃ l c, s = file ++ '(' :: (l ++ ',' :: c) ∧ IsCoordinate l line
      ∧ IsCoordinate c column := by
  constructor
  · intro h
    simp only [location?, Option.bind_eq_bind, Option.bind_eq_some_iff, Option.guard_eq_some',
      Prod.exists] at h
    obtain ⟨file', inside, hparen, -, hne, l, c, hcomma, line', hl, column', hc, heq⟩ := h
    cases heq
    obtain ⟨rfl, -⟩ := Text.cutLast_eq_some_iff.1 hparen
    obtain ⟨rfl, -⟩ := Text.cutAt_eq_some_iff.1 hcomma
    exact ⟨by simpa using hne, l, c, rfl, coordinate?_eq_some_iff.1 hl,
      coordinate?_eq_some_iff.1 hc⟩
  · rintro ⟨hne, l, c, rfl, hl, hc⟩
    have hcomma : Text.cutAt [','] (l ++ ',' :: c) = some (l, c) :=
      Text.cutAt_singleton hl.comma_not_mem
    simp [location?, cutLast_place hl hc, hcomma, hne, coordinate?_eq_some_iff.2 hl,
      coordinate?_eq_some_iff.2 hc]

theorem tagged?_eq_some_iff : tagged? s = some (code, message)
    ↔ s = code ++ (codeEnd ++ message) ∧ code ≠ [] ∧ ∀ c ∈ code, isBlank c = false := by
  constructor
  · intro h
    simp only [tagged?, Option.bind_eq_bind, Option.bind_eq_some_iff, Option.guard_eq_some',
      Prod.exists] at h
    obtain ⟨code', message', hcut, -, hword, heq⟩ := h
    cases heq
    obtain ⟨rfl, -⟩ := Text.cutAt_eq_some_iff.1 hcut
    exact ⟨rfl, by simpa using hword⟩
  · rintro ⟨rfl, hne, hblank⟩
    have hword : (!code.isEmpty && !code.any isBlank) = true := by simpa using And.intro hne hblank
    rw [tagged?, cutAt_tag hblank]
    dsimp only [Option.bind_eq_bind, Option.bind_some]
    rw [(Option.guard_eq_some' ()).2 hword]
    rfl

theorem Reads.parse? (h : Reads s p d) : parse? s = some d := by
  have hplace : location? p.place = some (p.file, d.line, d.column) :=
    location?_eq_some_iff.2 ⟨h.file_ne, p.line, p.column, rfl, h.line, h.column⟩
  have htag : tagged? p.tag = some (p.code, p.message) :=
    tagged?_eq_some_iff.2 ⟨rfl, h.code_ne, h.code_blank⟩
  rw [Diagnostic.parse?, dropReturns_eq_iff.2 ⟨h.ends, h.last⟩, h.cutAt_marker]
  dsimp only [Option.bind_eq_bind, Option.bind_some]
  rw [hplace, htag]
  dsimp only [Option.bind_some]
  rw [← h.file_eq, ← h.code_eq, ← h.message_eq]
  rfl

theorem exists_reads (h : parse? s = some d) : ∃ p, Reads s p d := by
  simp only [parse?, Option.bind_eq_bind, Option.bind_eq_some_iff, Prod.exists] at h
  obtain ⟨place, tag, hcut, file, line, column, hplace, code, message, htag, heq⟩ := h
  cases heq
  obtain ⟨hfile, l, c, rfl, hl, hc⟩ := location?_eq_some_iff.1 hplace
  obtain ⟨rfl, hcode, hblank⟩ := tagged?_eq_some_iff.1 htag
  obtain ⟨hs, hleft⟩ := Text.cutAt_eq_some_iff.1 hcut
  obtain ⟨hends, hlast⟩ := dropReturns_eq_iff.1 hs
  exact ⟨⟨file, l, c, code, message⟩, {
    ends := hends
    last := hlast
    leftmost := fun x y hxy => hleft x y (hs.trans hxy)
    file_ne := hfile
    line := hl
    column := hc
    code_ne := hcode
    code_blank := hblank
    file_eq := rfl
    code_eq := rfl
    message_eq := rfl }⟩

/-! ## One reading -/

theorem cut_unique {cut : Text → Option (Text × Text)} {s' a b a' b' : Text} (hs : s = s')
    (h : cut s = some (a, b)) (h' : cut s' = some (a', b')) : a = a' ∧ b = b' := by
  rw [hs, h'] at h
  cases h
  exact ⟨rfl, rfl⟩

/-- The parts of a line are where its four cuts are. -/
theorem Reads.parts_eq (h : Reads s p d) (h' : Reads s p' d') : p = p' := by
  have htext : p.text = p'.text := (dropReturns_eq_iff.2 ⟨h.ends, h.last⟩).symm.trans
    (dropReturns_eq_iff.2 ⟨h'.ends, h'.last⟩)
  obtain ⟨hplace, htag⟩ := cut_unique htext h.cutAt_marker h'.cutAt_marker
  obtain ⟨hfile, hposition⟩ :=
    cut_unique hplace (cutLast_place h.line h.column) (cutLast_place h'.line h'.column)
  obtain ⟨hline, hcolumn⟩ := cut_unique hposition (Text.cutAt_singleton h.line.comma_not_mem)
    (Text.cutAt_singleton h'.line.comma_not_mem)
  obtain ⟨hcode, hmessage⟩ := cut_unique htag (cutAt_tag h.code_blank) (cutAt_tag h'.code_blank)
  exact Parts.ext hfile hline hcolumn hcode hmessage

theorem Reads.diagnostic_eq (h : Reads s p d) (h' : Reads s p' d') : d = d' := by
  have hd := h.parse?
  rw [h'.parse?] at hd
  exact (Option.some.inj hd).symm

/-! ## The line that is written -/

/-- The parts of the line that reports a diagnostic. -/
def parts (d : Diagnostic) : Parts where
  file := d.file.toList
  line := ofNat d.line
  column := ofNat d.column
  code := d.code.toList
  message := d.message.toList

theorem render_eq (d : Diagnostic) : d.render = d.parts.text := by
  simp [render, Parts.text, Parts.place, Parts.position, Parts.tag, parts]

theorem getLast?_text (p : Parts) :
    p.text.getLast? = some '\r' ↔ p.message.getLast? = some '\r' := by
  have hne : codeEnd ++ p.message ≠ [] := by simp [codeEnd_eq]
  rw [Parts.text, Parts.tag, ← List.append_assoc, ← List.append_assoc,
    List.getLast?_append_of_ne_nil _ hne, List.getLast?_append, codeEnd_eq]
  cases p.message.getLast? with
  | none => simp
  | some c => simp

/-- A diagnostic is read from the line that is written for it, if its parts stand out there. -/
theorem reads_render (hfile : d.file ≠ "") (hmarker : ¬marker <:+: d.file.toList)
    (hline : d.line < Text.word32) (hcolumn : d.column < Text.word32) (hcode : d.code ≠ "")
    (hblank : ∀ c ∈ d.code.toList, isBlank c = false)
    (hlast : d.message.toList.getLast? ≠ some '\r') : Reads d.render d.parts d where
  ends := ⟨0, by rw [render_eq, List.replicate_zero, List.append_nil]⟩
  last := mt (getLast?_text d.parts).1 hlast
  leftmost := by
    have hcut := cutAt_marker (p := d.parts) (isCoordinate_ofNat hline) (isCoordinate_ofNat hcolumn)
      hmarker
    exact (Text.cutAt_eq_some_iff.1 hcut).2
  file_ne := by simpa [parts] using hfile
  line := isCoordinate_ofNat hline
  column := isCoordinate_ofNat hcolumn
  code_ne := by simpa [parts] using hcode
  code_blank := hblank
  file_eq := String.ofList_toList.symm
  code_eq := String.ofList_toList.symm
  message_eq := String.ofList_toList.symm

theorem IsCoordinate.lt (h : IsCoordinate s n) : n < Text.word32 := by
  obtain ⟨-, -, -, -, -, -, -, hlt⟩ := h
  exact hlt

/-- A diagnostic that was read is read again from the line that is written for it. -/
theorem Reads.render (h : Reads s p d) : Reads d.render d.parts d := by
  have hfile : d.file.toList = p.file := by rw [h.file_eq, String.toList_ofList]
  have hcode : d.code.toList = p.code := by rw [h.code_eq, String.toList_ofList]
  have hmessage : d.message.toList = p.message := by rw [h.message_eq, String.toList_ofList]
  refine reads_render ?_ (hfile ▸ h.not_infix) h.line.lt h.column.lt ?_ (hcode ▸ h.code_blank) ?_
  · intro hempty
    exact h.file_ne (hfile ▸ congrArg String.toList hempty)
  · intro hempty
    exact h.code_ne (hcode ▸ congrArg String.toList hempty)
  · rw [hmessage]
    exact mt (getLast?_text p).2 h.last

/-- `parse?` reads the lines of the grammar and no others.  A line has one reading, and what was
read is read again from the line that `render` writes for it. -/
theorem parse_grammar (s : Text) :
    (∀ d, parse? s = some d ↔ ∃ p, Reads s p d)
    ∧ (∀ p p' d d', Reads s p d → Reads s p' d' → p = p' ∧ d = d')
    ∧ ∀ d, parse? s = some d → parse? d.render = some d := by
  refine ⟨fun d => ⟨exists_reads, ?_⟩, fun p p' d d' h h' => ⟨h.parts_eq h', h.diagnostic_eq h'⟩,
    fun d hd => ?_⟩
  · rintro ⟨p, h⟩
    exact h.parse?
  · obtain ⟨p, h⟩ := exists_reads hd
    exact h.render.parse?

/-- A line whose path has a position of its own, whose code has a colon and whose message has a
marker. -/
theorem parse_grammar_crossed :
    let s : Text := "a(1,2).ts( +07,\t3): error TS:1: (9): error b: c\r\r".toList
    let d : Diagnostic := ⟨"a(1,2).ts", 7, 3, "TS:1", "(9): error b: c"⟩
    parse? s = some d ∧ (∃ p, Reads s p d) ∧ parse? d.render = some d := by
  intro s d
  have hd : parse? s = some d := by decide +kernel
  obtain ⟨hreads, -, hrender⟩ := parse_grammar s
  exact ⟨hd, (hreads d).1 hd, hrender d hd⟩

end SourceMend.Diagnostic
