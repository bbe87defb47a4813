import SourceMend.Fault
import SourceMend.Text.Blank

/-!
# Bytes as UTF-8 text

`decode` reads bytes as a text and otherwise tells where the first fault is.
`decodeLossy` never fails: every faulty sequence becomes one replacement
character.  A faulty sequence is the longest start of a well-formed sequence
that the bytes offer, at least one byte, so the byte after it may begin a
character again.
-/

namespace SourceMend.Text.Utf8

/-! ## One sequence -/

/-- What the bytes begin with. -/
inductive Step where
  /-- A character and the bytes after it. -/
  | char (c : Char) (rest : List UInt8)
  /-- A faulty sequence of `length` bytes and the bytes after it. -/
  | fault (length : Nat) (rest : List UInt8)
  /-- The start of a sequence that the end of the bytes cuts off. -/
  | cut
  deriving Repr

/-- A byte that continues a sequence. -/
def continues (b : UInt8) : Bool := 0x80 ≤ b && b ≤ 0xBF

/-- The number of bytes after the first that the first byte asks for, with the bounds of the second
byte.  Bytes that begin no sequence of several bytes give nothing. -/
def expects (b : UInt8) : Option (Nat × UInt8 × UInt8) :=
  if 0xC2 ≤ b && b ≤ 0xDF then some (1, 0x80, 0xBF)
  else if b == 0xE0 then some (2, 0xA0, 0xBF)
  else if b == 0xED then some (2, 0x80, 0x9F)
  else if 0xE1 ≤ b && b ≤ 0xEF then some (2, 0x80, 0xBF)
  else if b == 0xF0 then some (3, 0x90, 0xBF)
  else if 0xF1 ≤ b && b ≤ 0xF3 then some (3, 0x80, 0xBF)
  else if b == 0xF4 then some (3, 0x80, 0x8F)
  else none

/-- The bits that the first byte of a sequence of `1 + n` bytes contributes. -/
def leadBits (n : Nat) (b : UInt8) : Nat := b.toNat % 1 <<< (6 - n)

/-- The end of a sequence: `missing` continuation bytes after `taken` bytes of value `acc`. -/
def finish (taken acc : Nat) : Nat → List UInt8 → Step
  | 0, rest => .char (Char.ofNat acc) rest
  | _ + 1, [] => .cut
  | missing + 1, b :: rest =>
    if continues b then finish (taken + 1) (acc * 64 + b.toNat % 64) missing rest
    else .fault taken (b :: rest)

/-- What non-empty bytes begin with. -/
def step (b : UInt8) (rest : List UInt8) : Step :=
  if b < 0x80 then .char (Char.ofNat b.toNat) rest
  else
    match expects b, rest with
    | none, _ => .fault 1 rest
    | some _, [] => .cut
    | some (n, lo, hi), b₂ :: rest₂ =>
      if lo ≤ b₂ && b₂ ≤ hi then
        finish 2 (leadBits n b * 64 + b₂.toNat % 64) (n - 1) rest₂
      else .fault 1 rest

/-! ## All bytes -/

/-- The first fault of some bytes: the number of bytes before it and its length.  Every step
consumes a byte, so as much fuel as there are bytes is enough. -/
def firstFault (fuel index : Nat) (bytes : List UInt8) : Fault :=
  match fuel, bytes with
  | 0, _ => .badSequence index none
  | _, [] => .badSequence index none
  | fuel + 1, b :: rest =>
    match step b rest with
    | .char _ more => firstFault fuel (index + (bytes.length - more.length)) more
    | .fault n _ => .badSequence index (some n)
    | .cut => .badSequence index none

/-- The characters of some bytes, a replacement character for every faulty sequence. -/
def scan (fuel : Nat) (bytes : List UInt8) : Text :=
  match fuel, bytes with
  | 0, _ => []
  | _, [] => []
  | fuel + 1, b :: rest =>
    match step b rest with
    | .char c more => c :: scan fuel more
    | .fault _ more => '\uFFFD' :: scan fuel more
    | .cut => ['\uFFFD']

/-- The text that bytes encode, or the first fault in them. -/
def decode (bytes : ByteArray) : Except Fault String :=
  match String.fromUTF8? bytes with
  | some s => .ok s
  | none => .error (firstFault bytes.size 0 bytes.toList)

/-- The text that bytes encode, with replacement characters for faulty sequences. -/
def decodeLossy (bytes : ByteArray) : String :=
  match String.fromUTF8? bytes with
  | some s => s
  | none => .ofList (scan bytes.size bytes.toList)

end SourceMend.Text.Utf8
