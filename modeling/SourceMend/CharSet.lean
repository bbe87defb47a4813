import SourceMend.Text.Numeral

/-!
# Sets of characters

A set of characters is a list of ranges of code points, ascending, disjoint and
not touching, so equal sets are equal values.  The code points between U+D7FF
and U+E000 are no characters, and a range may run across them.  Every operation
gives ranges of that form again.
-/

namespace SourceMend

/-- A set of characters, as ranges of code points with both ends included. -/
structure CharSet where
  /-- The ranges, ascending. -/
  ranges : List (Nat × Nat)
  deriving DecidableEq, Repr, Inhabited

namespace CharSet

/-! ## Code points -/

/-- The largest code point. -/
def maxPoint : Nat := 0x10FFFF

/-- The code point of the next character. -/
def next (n : Nat) : Nat := if n = 0xD7FF then 0xE000 else n + 1

/-- The code point of the character before. -/
def previous (n : Nat) : Nat := if n = 0xE000 then 0xD7FF else n - 1

/-- Whether a code point lies in one of some ascending ranges. -/
def inRanges (n : Nat) : List (Nat × Nat) → Bool
  | [] => false
  | (lo, hi) :: r => if n < lo then false else n ≤ hi || inRanges n r

/-- Whether a character is in a set. -/
def contains (s : CharSet) (c : Char) : Bool := inRanges c.toNat s.ranges

/-! ## Building sets -/

/-- A range put in front of ranges that do not start before it.  Ranges that overlap or touch
become one. -/
def cover (r : Nat × Nat) : List (Nat × Nat) → List (Nat × Nat)
  | [] => [r]
  | (lo, hi) :: rest =>
    if lo ≤ next r.2 then cover (r.1, max r.2 hi) rest else r :: (lo, hi) :: rest

/-- Ascending ranges with those that overlap or touch made one. -/
def coverAll : List (Nat × Nat) → List (Nat × Nat)
  | [] => []
  | r :: rest => cover r (coverAll rest)

/-- A range put among ascending ranges at its place. -/
def place (r : Nat × Nat) : List (Nat × Nat) → List (Nat × Nat)
  | [] => [r]
  | s :: rest =>
    if r.1 < s.1 || (r.1 == s.1 && r.2 ≤ s.2) then r :: s :: rest else s :: place r rest

/-- The set of the characters in some ranges, in any order. -/
def ofRanges (rs : List (Nat × Nat)) : CharSet := ⟨coverAll (rs.foldr place [])⟩

/-- The set without characters. -/
def empty : CharSet := ⟨[]⟩

/-- The set of one character. -/
def single (c : Char) : CharSet := ⟨[(c.toNat, c.toNat)]⟩

/-- The set of the characters from `a` to `b`. -/
def range (a b : Char) : CharSet := ofRanges [(a.toNat, b.toNat)]

/-- The set of some characters. -/
def ofChars (cs : List Char) : CharSet := ofRanges (cs.map fun c => (c.toNat, c.toNat))

/-- The characters of two sets. -/
def union (s t : CharSet) : CharSet := ofRanges (s.ranges ++ t.ranges)

/-- What ascending ranges leave out from the code point `lo` on. -/
def gaps (lo : Nat) : List (Nat × Nat) → List (Nat × Nat)
  | [] => if lo ≤ maxPoint then [(lo, maxPoint)] else []
  | (a, b) :: rest =>
    if lo < a then (lo, previous a) :: gaps (next b) rest else gaps (next b) rest

/-- The characters that are not in a set. -/
def complement (s : CharSet) : CharSet := ⟨gaps 0 s.ranges⟩

/-- The characters that two sets share. -/
def intersection (s t : CharSet) : CharSet := (s.complement.union t.complement).complement

/-- The characters of `s` that are not in `t`. -/
def difference (s t : CharSet) : CharSet := s.intersection t.complement

/-- The characters that are in one of two sets only. -/
def symmetricDifference (s t : CharSet) : CharSet := (s.difference t).union (t.difference s)

/-- The set of all characters. -/
def all : CharSet := empty.complement

/-! ## Questions -/

/-- Whether a set has no characters. -/
def isEmpty (s : CharSet) : Bool := s.ranges.isEmpty

/-- The only character of a set that has one. -/
def single? (s : CharSet) : Option Char :=
  match s.ranges with
  | [(lo, hi)] => if lo = hi then some (Char.ofNat lo) else none
  | _ => none

/-- Whether every character of a set is ASCII. -/
def isAscii (s : CharSet) : Bool := s.ranges.all fun r => r.2 < 128

/-! ## Written ranges -/

/-- The range that is written as `41-5A`, or as `41` if it has one character. -/
def readRange (w : Text) : Option (Nat × Nat) :=
  match w.splitOn '-' with
  | [a] => (Text.digits 16 a).map fun n => (n, n)
  | [a, b] => (Text.digits 16 a).bind fun lo => (Text.digits 16 b).map fun hi => (lo, hi)
  | _ => none

/-- The set of ascending ranges that are written on some lines in hexadecimal, with blanks between
them. -/
def read (lines : List String) : CharSet :=
  ⟨lines.flatMap fun s => (s.toList.splitOn ' ').filterMap readRange⟩

end CharSet
end SourceMend
