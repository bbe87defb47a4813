import SourceMend.Text.Utf8

/-!
# Raw texts

The names of files and directories are bytes, and so are paths.  Any byte but the slash and the
one with the number zero may stand in a name, so names need not be UTF-8.  A string stands for
the raw text of its bytes.

A raw text is a string again if it is UTF-8 (`toText?`).  Where a string is needed in any case,
`lossy` puts a replacement character for every faulty sequence.
-/

namespace SourceMend

/-- A text as its bytes. -/
@[ext]
structure RawText where
  /-- The bytes. -/
  bytes : List UInt8
  deriving DecidableEq, Repr, Inhabited

namespace RawText

/-- The byte between the names of a path. -/
def slash : UInt8 := 0x2F

/-- The byte before the extension of a name. -/
def dot : UInt8 := 0x2E

@[simp] theorem dot_ne_slash : dot ≠ slash := by decide

@[simp] theorem zero_ne_slash : 0 ≠ slash := by decide

/-- The text without bytes. -/
def empty : RawText := ⟨[]⟩

/-- The bytes of one text and then those of another. -/
def append (s t : RawText) : RawText := ⟨s.bytes ++ t.bytes⟩

instance : Append RawText := ⟨append⟩

@[simp] theorem bytes_append (s t : RawText) : (s ++ t).bytes = s.bytes ++ t.bytes := rfl

/-- Texts compare byte by byte, and a proper start comes first. -/
instance : Ord RawText := ⟨fun s t => compare s.bytes t.bytes⟩

theorem compare_eq (s t : RawText) : compare s t = compare s.bytes t.bytes := rfl

instance : LT RawText := ⟨fun s t => s.bytes < t.bytes⟩

instance (s t : RawText) : Decidable (s < t) := inferInstanceAs (Decidable (s.bytes < t.bytes))

@[simp] theorem lt_irrefl (s : RawText) : ¬s < s := List.lt_irrefl (α := UInt8) s.bytes

theorem lt_trans {s t u : RawText} (hst : s < t) (htu : t < u) : s < u :=
  List.lt_trans (α := UInt8) hst htu

/-- Of two different texts one comes first. -/
theorem eq_of_not_lt {s t : RawText} (hst : ¬s < t) (hts : ¬t < s) : s = t :=
  RawText.ext (List.le_antisymm (List.not_lt.1 hts) (List.not_lt.1 hst))

/-- The bytes of a string in UTF-8. -/
def ofString (s : String) : RawText := ⟨s.toUTF8.data.toList⟩

instance : Coe String RawText := ⟨ofString⟩

@[simp] theorem bytes_ofString_slash : (ofString "/").bytes = [slash] := by decide

/-- The string whose bytes these are, if they are UTF-8. -/
def toText? (s : RawText) : Option String := String.fromUTF8? ⟨s.bytes.toArray⟩

/-- The bytes as a string, with replacement characters where they are not UTF-8. -/
def lossy (s : RawText) : String := Text.Utf8.decodeLossy ⟨s.bytes.toArray⟩

end RawText
end SourceMend
