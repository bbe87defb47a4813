import SourceMend.Readable
import SourceMend.Toml.Parser

/-!
# Records in TOML

Every TOML value has a type of its own, and no value stands for another.  A list
of tables reads like a list between brackets.  A date or time where a record is
expected reads like a record without known fields.
-/

namespace SourceMend.Toml

/-- The elements of a list. -/
def items? : Toml → Option (List Toml)
  | list vs => some vs
  | tables rows => some (rows.reverse.map (.table .header))
  | _ => none

/-- The fields of a record. -/
def record? (names : List String) (needed : Nat) (v : Toml) : Option (List (String × Toml)) :=
  match v with
  | .table _ fs => some fs
  | .time _ => some []
  | v =>
    match v.items? with
    | some vs => if needed ≤ vs.length then some (names.zip vs) else none
    | none => none

instance : Readable Toml where
  isNull _ := false
  text?
    | .text s => some s
    | _ => none
  bool?
    | .bool b => some b
    | _ => none
  nat?
    | .int (.ofNat n) => some n
    | _ => none
  items? := items?
  record? := record?

end SourceMend.Toml
