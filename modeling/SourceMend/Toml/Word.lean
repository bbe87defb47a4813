import SourceMend.Toml.Quoted
import SourceMend.Toml.Value

/-!
# Unquoted values of TOML

A value without quotes or brackets is a truth value, a number, or a date or time.
Underscores may stand between the digits of a number, and no decimal number has a
zero too many in front.
-/

namespace SourceMend.Toml

/-! ## Numbers -/

/-- A text without the sign in front of it, and whether the sign is a minus. -/
def unsigned : Text → Bool × Text
  | '+' :: r => (false, r)
  | '-' :: r => (true, r)
  | s => (false, s)

/-- A row of digits without the underscores between them. -/
def digitRow? (base : Nat) (s : Text) : Option Text :=
  let ps := Text.pieces '_' s
  if ps.all fun p => (Text.digits base p).isSome then some ps.flatten else none

/-- A row of decimal digits that starts with a zero only if it is a zero. -/
def decimalRow? (s : Text) : Option Text :=
  (digitRow? 10 s).filter fun ds => ds.length = 1 || ds.head? != some '0'

/-- The value of a whole number. -/
def integer? (s : Text) : Option Int :=
  match s with
  | '0' :: 'x' :: r => ((digitRow? 16 r).bind (Text.digits 16)).map Int.ofNat
  | '0' :: 'o' :: r => ((digitRow? 8 r).bind (Text.digits 8)).map Int.ofNat
  | '0' :: 'b' :: r => ((digitRow? 2 r).bind (Text.digits 2)).map Int.ofNat
  | s =>
    let (negative, s) := unsigned s
    ((decimalRow? s).bind (Text.digits 10)).map fun n => if negative then -(n : Int) else n

/-- Whether a whole number is in the range that can be read at all. -/
def inRange (n : Int) : Bool := -(1 <<< 127 : Nat) ≤ n && n < (1 <<< 128 : Nat)

/-- The digits and the exponent of a number with a fraction or an exponent. -/
def parts? (s : Text) : Option (Text × Int) := do
  let (mantissa, exponent) := match s.span fun c => c != 'e' && c != 'E' with
    | (m, _ :: e) => (m, some e)
    | (m, []) => (m, none)
  let e ← match exponent with
    | none => some 0
    | some e =>
      let (negative, e) := unsigned e
      ((digitRow? 10 e).bind (Text.digits 10)).map fun n => if negative then -(n : Int) else n
  match Text.cutAt ['.'] mantissa with
  | some (a, b) =>
    return ((← decimalRow? a) ++ (← digitRow? 10 b), e - (b.filter (· != '_')).length)
  | none => if exponent.isSome then return (← decimalRow? mantissa, e) else none

/-- Whether `digits` times the power of ten with an exponent is too large for a double.  The limit
is halfway between the largest double and the next power of two. -/
def overflows (digits : Text) (exponent : Int) : Bool :=
  let ds := digits.dropWhile (· == '0')
  let magnitude := exponent + ds.length
  if ds.isEmpty || magnitude < 300 then false
  else if 320 < magnitude then true
  else
    let n := (Text.digits 10 ds).getD 0
    let limit : Nat := 1 <<< 1024 - 1 <<< 970
    if 0 ≤ exponent then limit ≤ n * Nat.pow 10 exponent.toNat
    else limit * Nat.pow 10 (-exponent).toNat ≤ n

/-- Whether a text is a number with a fraction or an exponent, or one of the special numbers. -/
def isFloat (s : Text) : Bool :=
  let (_, s) := unsigned s
  s == "inf".toList || s == "nan".toList ||
    match parts? s with
    | some (ds, e) => !overflows ds e
    | none => false

/-! ## Dates and times -/

/-- The value of two digits. -/
def two? (a b : Char) : Option Nat := Text.digits 10 [a, b]

/-- The number of days of a month. -/
def daysIn (year month : Nat) : Nat :=
  if month = 2 then
    if year % 4 = 0 ∧ (year % 100 ≠ 0 ∨ year % 400 = 0) then 29 else 28
  else if month = 4 ∨ month = 6 ∨ month = 9 ∨ month = 11 then 30
  else 31

/-- The rest of a text after a date. -/
def afterDate? : Text → Option Text
  | a :: b :: c :: d :: '-' :: e :: f :: '-' :: g :: h :: r => do
    let year ← Text.digits 10 [a, b, c, d]
    let month ← two? e f
    let day ← two? g h
    if 1 ≤ month ∧ month ≤ 12 ∧ 1 ≤ day ∧ day ≤ daysIn year month then some r else none
  | _ => none

/-- The rest of a text after a point and digits, if it starts with a point. -/
def afterFraction? : Text → Option Text
  | '.' :: r =>
    let rest := r.dropWhile Char.isDigit
    if rest.length < r.length then some rest else none
  | r => some r

/-- The rest of a text after a time of the day. -/
def afterTime? : Text → Option Text
  | a :: b :: ':' :: c :: d :: r => do
    let hour ← two? a b
    let minute ← two? c d
    if 23 < hour ∨ 59 < minute then none
    else
      match r with
      | ':' :: e :: f :: r =>
        let second ← two? e f
        if 60 < second then none else afterFraction? r
      | r => some r
  | _ => none

/-- Whether a text is nothing or an offset from universal time. -/
def isOffset : Text → Bool
  | [] => true
  | ['Z'] => true
  | ['z'] => true
  | [s, a, b, ':', c, d] =>
    (s == '+' || s == '-') &&
      match two? a b, two? c d with
      | some h, some m => h ≤ 23 && m ≤ 59
      | _, _ => false
  | _ => false

/-- Whether a text is a date, a time or both. -/
def isTime (s : Text) : Bool :=
  match afterDate? s with
  | some [] => true
  | some (sep :: r) =>
    (sep == 'T' || sep == 't' || sep == ' ') &&
      match afterTime? r with
      | some offset => isOffset offset
      | none => false
  | none => afterTime? s == some []

/-! ## Words -/

/-- Whether a character goes on with an unquoted value. -/
def isWordChar (c : Char) : Bool :=
  !isGap c && c != '\n' && c != '\r' && c != ',' && c != ']' && c != '\x7d' && c != '#'

/-- The unquoted value at the start of a text, and the rest.  A date and a time may have a blank
between them. -/
def word (s : Text) : Text × Text :=
  let (w, rest) := s.span isWordChar
  match afterDate? w, rest with
  | some [], ' ' :: d :: r =>
    if d.isDigit then
      let (t, rest) := (d :: r).span isWordChar
      (w ++ ' ' :: t, rest)
    else (w, rest)
  | _, _ => (w, rest)

/-- The value of a word. -/
def ofWord? (w : Text) : Option Toml :=
  if w = "true".toList then some (.bool true)
  else if w = "false".toList then some (.bool false)
  else
    match integer? w with
    | some n => if inRange n then some (.int n) else none
    | none =>
      if isFloat w then some (.float (.ofList w))
      else if isTime w then some (.time (.ofList w))
      else none

end SourceMend.Toml
