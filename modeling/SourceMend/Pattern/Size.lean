import SourceMend.Pattern.Expr

/-!
# The size of a pattern

A pattern stands for an automaton that reads the bytes of UTF-8 from the end of
a match to its start, or from the start to the end.  A counted repetition is
written out, so a short pattern can have a large automaton.  `Expr.memory` is
what the automaton takes: a fixed amount for every state, and some for
every way out of a state that has several.

A set of characters is a set of byte sequences.  `sequences` cuts a range of
code points into products of byte ranges.
-/

namespace SourceMend.Pattern

/-! ## Characters as bytes -/

/-- A product of byte ranges, one range for every byte of a sequence. -/
abbrev ByteRanges := List (Nat × Nat)

/-- The bytes of a code point in UTF-8. -/
def encoded (n : Nat) : List Nat :=
  let tail (shift : Nat) := 0x80 + (n >>> shift) % 64
  if n < 0x80 then [n]
  else if n < 0x800 then [0xC0 + n >>> 6, tail 0]
  else if n < 0x10000 then [0xE0 + n >>> 12, tail 6, tail 0]
  else [0xF0 + n >>> 18, tail 12, tail 6, tail 0]

/-- The largest code points of the sequences of one to three bytes, and the last one before the gap
in the code points. -/
def seams : List Nat := [0x7F, 0x7FF, 0xD7FF, 0xFFFF]

/-- A range of code points cut after the seams in it, without the code points of the gap. -/
def cutAtSeams (lo hi : Nat) : List Nat → List (Nat × Nat)
  | [] => if lo ≤ hi then [(lo, hi)] else []
  | m :: ms =>
    let after := max lo (if m = 0xD7FF then 0xE000 else m + 1)
    if lo ≤ m then (if hi ≤ m then [(lo, hi)] else (lo, m) :: cutAtSeams after hi ms)
    else cutAtSeams (if m = 0xD7FF then after else lo) hi ms

/-- A range of code points of one length cut into products of byte ranges.  `bytes` is the number
of bytes after the first. -/
def cutToProducts (lo hi : Nat) : (bytes : Nat) → List (Nat × Nat)
  | 0 => [(lo, hi)]
  | bytes + 1 =>
    let unit := 1 <<< (6 * (bytes + 1))
    if lo / unit = hi / unit then cutToProducts lo hi bytes
    else
      let firstEnd := lo / unit * unit + unit - 1
      let lastStart := hi / unit * unit
      let headEnd := if lo % unit = 0 then lo else firstEnd + 1
      let tailStart := if hi % unit = unit - 1 then hi + 1 else lastStart
      (if lo < headEnd then cutToProducts lo firstEnd bytes else [])
        ++ (if headEnd < tailStart then [(headEnd, tailStart - 1)] else [])
        ++ (if tailStart ≤ hi then cutToProducts tailStart hi bytes else [])

/-- The byte sequences of a range of code points. -/
def sequences (r : Nat × Nat) : List ByteRanges :=
  (cutAtSeams r.1 r.2 seams).flatMap fun s =>
    (cutToProducts s.1 s.2 ((encoded s.2).length - 1)).map fun p =>
      (encoded p.1).zip (encoded p.2)

/-! ## States -/

/-- The memory of a state. -/
def stateSize : Nat := 32

/-- The memory of a way out of a state, beyond the first. -/
def wayOutSize : Nat := 4

/-- The number of ranges at the start of a sequence that another does not start with. -/
def unshared : ByteRanges → ByteRanges → Nat
  | a :: as, b :: bs => if a = b then unshared as bs else (b :: bs).length
  | _, bs => bs.length

/-- The number of ranges of ascending sequences, with a common start of neighbours counted once. -/
def sharedLength (before : ByteRanges) : List ByteRanges → Nat
  | [] => 0
  | s :: rest => unshared before s + sharedLength s rest

/-- The memory of the automaton of a set. -/
def setSize (s : CharSet) : Nat :=
  if s.isAscii then 2 * stateSize + 2 * wayOutSize * s.ranges.length
  else
    let ss := s.ranges.flatMap sequences
    (2 + sharedLength [] ss) * stateSize + ss.length * wayOutSize

namespace Expr

/-- The memory of the rounds of an expression that takes `each` itself. -/
def roundsSize (min : Nat) (max : Option Nat) (consumes : Bool) (each : Nat) : Nat :=
  let fork := stateSize + 2 * wayOutSize
  match min, max with
  | 0, none => if consumes then fork + each else 2 * fork + stateSize + each
  | min + 1, none => (min + 1) * each + fork
  | 0, some 1 => fork + each + stateSize
  | 0, some 0 => stateSize
  | min, some max => min * each + (if min < max then stateSize + (max - min) * (fork + each) else 0)

/-- The memory of the automaton of an expression.  Groups take some only if `forward`. -/
def memory (forward : Bool) : Expr → Nat
  | empty => stateSize
  | never => stateSize
  | literal cs => stateSize * (String.ofList cs).utf8ByteSize
  | set s => setSize s
  | look _ => stateSize
  | group _ e => e.memory forward + (if forward then 2 * stateSize else 0)
  | seq a b => a.memory forward + b.memory forward
  | alt a b => a.memory forward + b.memory forward + 2 * wayOutSize + stateSize
  | rounds min max _ e => roundsSize min max e.consumes (e.memory forward)

end Expr

/-- The memory that the automaton of a pattern may take. -/
def sizeLimit : Nat := 10 * 1024 * 1024

/-- Whether the automaton of an expression takes too much memory in either direction. -/
def Expr.isTooLarge (e : Expr) : Bool :=
  sizeLimit < e.memory true || sizeLimit < e.memory false

end SourceMend.Pattern
