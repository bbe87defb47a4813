/-!
# Reading records from values

Catalogs and settings come in several formats.  A format is *readable* when its
values can be taken as texts, truth values, numbers, lists and records.  The
readers here build on that alone, so that every format is read by the same
rules: a field of the wrong type is refused, an unknown field is ignored, and
only an optional field may be missing.
-/

namespace SourceMend

/-- Values that records can be read from. -/
class Readable (V : Type) where
  /-- Whether a value stands for no value. -/
  isNull : V → Bool
  /-- The value as a text. -/
  text? : V → Option String
  /-- The value as a truth value. -/
  bool? : V → Option Bool
  /-- The value as a natural number. -/
  nat? : V → Option Nat
  /-- The value as a list. -/
  items? : V → Option (List V)
  /-- The value as a record with fields of given names.  A record may be written as a list of its
  fields in order, if at least the first `needed` are there. -/
  record? : (names : List String) → (needed : Nat) → V → Option (List (String × V))

namespace Readable

variable {V α : Type} [Readable V]

/-- The result of reading: a value, or what is wrong. -/
abbrev Reading (α : Type) := Except String α

/-- A value that is there, or what was expected. -/
def expect (what : String) : Option α → Reading α
  | some a => .ok a
  | none => .error ("expected " ++ what)

/-- A text. -/
def text (v : V) : Reading String := expect "a text" (text? v)

/-- A truth value. -/
def bool (v : V) : Reading Bool := expect "a truth value" (bool? v)

/-- A natural number below a limit. -/
def nat (limit : Nat) (v : V) : Reading Nat := expect "a number" ((nat? v).filter (· < limit))

/-- A list of values. -/
def list (read : V → Reading α) (v : V) : Reading (List α) := do
  (← expect "a list" (items? v)).mapM read

/-- The fields of a record. -/
def fields (names : List String) (needed : Nat) (v : V) : Reading (List (String × V)) :=
  expect "a record" (record? names needed v)

/-- A field that has to be there. -/
def required (fs : List (String × V)) (k : String) (read : V → Reading α) : Reading α := do
  read (← expect ("the field " ++ k) (fs.lookup k))

/-- A field with a value for when it is missing. -/
def withDefault (fs : List (String × V)) (k : String) (d : α) (read : V → Reading α) :
    Reading α :=
  match fs.lookup k with
  | some v => read v
  | none => .ok d

/-- A field that may be missing or null. -/
def optional (fs : List (String × V)) (k : String) (read : V → Reading α) : Reading (Option α) :=
  match fs.lookup k with
  | some v => if isNull v then .ok none else some <$> read v
  | none => .ok none

end Readable
end SourceMend
