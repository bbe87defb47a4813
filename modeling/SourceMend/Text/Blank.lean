/-!
# Blank characters and trimming

A character is *blank* when it has the Unicode property `White_Space`.  The
twenty-five blank characters are listed as eleven ranges.  `trim` removes the
longest blank run at each end of a text, and `isBlankText` decides whether
nothing would be left.
-/

namespace SourceMend

/-- A text, as the list of its characters. -/
abbrev Text := List Char

namespace Text

/-! ## Blank characters -/

/-- The ranges of code points with the property `White_Space`, ascending, both ends included. -/
def blankRanges : List (Nat × Nat) :=
  [(0x9, 0xD), (0x20, 0x20), (0x85, 0x85), (0xA0, 0xA0), (0x1680, 0x1680), (0x2000, 0x200A),
   (0x2028, 0x2029), (0x202F, 0x202F), (0x205F, 0x205F), (0x3000, 0x3000)]

/-- A character is blank when its code point lies in one of the blank ranges. -/
def isBlank (c : Char) : Bool :=
  blankRanges.any fun r => r.1 ≤ c.toNat && c.toNat ≤ r.2

/-! ## Trimming -/

/-- The text without its leading blanks. -/
def trimStart (s : Text) : Text := s.dropWhile isBlank

/-- The text without the characters at its end that satisfy `p`. -/
def dropEndWhile (p : Char → Bool) (s : Text) : Text := (s.reverse.dropWhile p).reverse

/-- The text without its trailing blanks. -/
def trimEnd (s : Text) : Text := dropEndWhile isBlank s

/-- The text without the blanks at its two ends. -/
def trim (s : Text) : Text := trimEnd (trimStart s)

/-- A text is blank when every character of it is. -/
def isBlankText (s : Text) : Bool := s.all isBlank

end Text
end SourceMend
