import SourceMend.Text.Blank

/-!
# Decimal numerals

`natural` reads a whole text as a decimal numeral: one or more ASCII digits,
with at most one plus sign in front.  Leading zeros are allowed.  `bounded`
also refuses a value that does not fit below a limit.
-/

namespace SourceMend.Text

/-- The value of an ASCII decimal digit. -/
def digit? (c : Char) : Option Nat :=
  if '0' ≤ c ∧ c ≤ '9' then some (c.toNat - '0'.toNat) else none

/-- The value of an ASCII digit in a base of at most sixteen. -/
def digitIn? (base : Nat) (c : Char) : Option Nat :=
  let v? :=
    if '0' ≤ c ∧ c ≤ '9' then some (c.toNat - '0'.toNat)
    else if 'a' ≤ c ∧ c ≤ 'f' then some (c.toNat - 'a'.toNat + 10)
    else if 'A' ≤ c ∧ c ≤ 'F' then some (c.toNat - 'A'.toNat + 10)
    else none
  v?.filter (· < base)

/-- Digits of a base appended to the value of those already read. -/
def digitsFrom (base acc : Nat) : Text → Option Nat
  | [] => some acc
  | c :: r =>
    match digitIn? base c with
    | some d => digitsFrom base (acc * base + d) r
    | none => none

/-- The value of a non-empty row of digits of a base. -/
def digits (base : Nat) : Text → Option Nat
  | [] => none
  | c :: r => digitsFrom base 0 (c :: r)

/-- The value of a decimal numeral, an optional plus sign and digits. -/
def natural : Text → Option Nat
  | '+' :: r => digits 10 r
  | s => digits 10 s

/-- The value of a decimal numeral that is below `limit`. -/
def bounded (limit : Nat) (s : Text) : Option Nat := (natural s).filter (· < limit)

/-- The decimal digits of a number. -/
def ofNat (n : Nat) : Text := (Nat.repr n).toList

/-- The number of values of a 32-bit word. -/
def word32 : Nat := 1 <<< 32

/-- The number of values of a 64-bit word. -/
def word64 : Nat := 1 <<< 64

end SourceMend.Text
