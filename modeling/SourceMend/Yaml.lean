import SourceMend.Readable
import SourceMend.Yaml.Node

/-!
# Records in YAML

A text of YAML has no type of its own.  Where a text is expected, every text is
one.  Only a plain text can be a truth value, a number or no value at all, but a
tag lets a block be one too.  Where a list or a record is expected, nothing
written stands for an empty one.
-/

namespace SourceMend.Yaml

/-- The start of the tags of the standard types. -/
def standardTag (name : String) : String := "tag:yaml.org,2002:" ++ name

/-- The ways to write no value. -/
def nulls : List String := ["null", "Null", "NULL", "~"]

/-- Whether a value stands for no value. -/
def isNull : Yaml → Bool
  | .nothing => true
  | .scalar tag .plain s =>
    let named := nulls.contains (.ofList s)
    if tag = some (standardTag "null") then named
    else tag.isNone && (s.isEmpty || named)
  | _ => false

/-- The text of a value that may be one of the type `name`. -/
def typed? (name : String) : Yaml → Option Text
  | .scalar tag style s =>
    if style = .plain ∨ (style = .literal ∧ tag = some (standardTag name)) then some s else none
  | _ => none

/-- The truth value that a text stands for. -/
def truth? (s : Text) : Option Bool :=
  if ["true", "True", "TRUE"].contains (.ofList s) then some true
  else if ["false", "False", "FALSE"].contains (.ofList s) then some false
  else none

/-- The number that a text without a sign stands for.  A decimal number has no zero in front. -/
def unsigned? : Text → Option Nat
  | '0' :: 'x' :: r => Text.digits 16 r
  | '0' :: 'o' :: r => Text.digits 8 r
  | '0' :: 'b' :: r => Text.digits 2 r
  | '0' :: d :: r => if (d :: r).all Char.isDigit then none else Text.digits 10 ('0' :: d :: r)
  | s => Text.digits 10 s

/-- The number that a text stands for. -/
def number? : Text → Option Nat
  | '+' :: r => unsigned? r
  | s => unsigned? s

/-- Whether a text is not written at all. -/
def isUnwritten : Yaml → Bool
  | .nothing => true
  | .scalar _ .plain [] => true
  | _ => false

/-- The key that a value stands for. -/
def keyText? : Yaml → Option String
  | .scalar _ _ s => some (.ofList s)
  | _ => none

/-- The fields of a record by their keys.  A name that is asked for must not come twice. -/
def named? (names : List String) : List (Yaml × Yaml) → Option (List (String × Yaml))
  | [] => some []
  | (k, v) :: r => do
    let key ← keyText? k
    let rest ← named? names r
    if names.contains key && (rest.lookup key).isSome then none else some ((key, v) :: rest)

/-- The fields of a record. -/
def record? (names : List String) (v : Yaml) : Option (List (String × Yaml)) :=
  match v with
  | .record fs => named? names fs
  | .list vs => if vs.length = names.length then some (names.zip vs) else none
  | v => if v.isUnwritten then some [] else none

instance : Readable Yaml where
  isNull := isNull
  text? := keyText?
  bool? v := (typed? "bool" v).bind truth?
  nat? v := (typed? "int" v).bind number?
  items?
    | .list vs => some vs
    | v => if v.isUnwritten then some [] else none
  record? names _ v := record? names v

end SourceMend.Yaml
