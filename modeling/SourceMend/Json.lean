import SourceMend.Text.Cut
import SourceMend.Text.Numeral

/-!
# JSON values

Reports are written as JSON.  The fields of an object keep their order.  `pretty`
puts every element on a line of its own, two blanks deeper than what it belongs
to, and `compact` adds no blanks.
-/

namespace SourceMend

/-- A JSON value. -/
inductive Json where
  /-- No value. -/
  | null
  /-- A truth value. -/
  | bool (b : Bool)
  /-- A number. -/
  | num (n : Nat)
  /-- A text. -/
  | str (s : String)
  /-- A list of values. -/
  | arr (items : List Json)
  /-- Named values. -/
  | obj (fields : List (String × Json))
  deriving Inhabited

namespace Json

/-- A value that may be missing. -/
def ofOption {α : Type} (f : α → Json) : Option α → Json
  | some a => f a
  | none => null

/-- A list of texts. -/
def strs (ss : List String) : Json := arr (ss.map str)

/-! ## Texts -/

/-- A control character by its code point, with four digits. -/
def controlEscape (n : Nat) : Text :=
  let ds := Nat.toDigits 16 n
  '\\' :: 'u' :: List.replicate (4 - ds.length) '0' ++ ds

/-- A character inside a text. -/
def escapeChar (c : Char) : Text :=
  match c with
  | '"' => ['\\', '"']
  | '\\' => ['\\', '\\']
  | '\n' => ['\\', 'n']
  | '\r' => ['\\', 'r']
  | '\t' => ['\\', 't']
  | '\x08' => ['\\', 'b']
  | '\x0C' => ['\\', 'f']
  | c => if c.toNat < 0x20 then controlEscape c.toNat else [c]

/-- A text between quotes. -/
def quote (s : String) : Text := '"' :: s.toList.flatMap escapeChar ++ ['"']

/-! ## Values -/

/-- Elements between brackets, each on a line of its own, `depth` steps deep. -/
def block (opening closing : Char) (depth : Nat) : List Text → Text
  | [] => [opening, closing]
  | items =>
    let line (d : Nat) : Text := '\n' :: List.replicate (2 * d) ' '
    opening :: line (depth + 1) ++ Text.join (',' :: line (depth + 1)) items
      ++ line depth ++ [closing]

mutual

/-- A value with its elements on lines of their own, `depth` steps deep. -/
def prettyAt (depth : Nat) : Json → Text
  | null => "null".toList
  | bool b => (if b then "true" else "false").toList
  | num n => Text.ofNat n
  | str s => quote s
  | arr items => block '[' ']' depth (prettyItems (depth + 1) items)
  | obj fields => block '\x7b' '\x7d' depth (prettyFields (depth + 1) fields)

/-- The elements of a list. -/
def prettyItems (depth : Nat) : List Json → List Text
  | [] => []
  | v :: r => prettyAt depth v :: prettyItems depth r

/-- The fields of an object. -/
def prettyFields (depth : Nat) : List (String × Json) → List Text
  | [] => []
  | (k, v) :: r => (quote k ++ ':' :: ' ' :: prettyAt depth v) :: prettyFields depth r

end

mutual

/-- A value without blanks. -/
def compact : Json → Text
  | null => "null".toList
  | bool b => (if b then "true" else "false").toList
  | num n => Text.ofNat n
  | str s => quote s
  | arr items => '[' :: Text.join [','] (compactItems items) ++ [']']
  | obj fields => '\x7b' :: Text.join [','] (compactFields fields) ++ ['\x7d']

/-- The elements of a list. -/
def compactItems : List Json → List Text
  | [] => []
  | v :: r => compact v :: compactItems r

/-- The fields of an object. -/
def compactFields : List (String × Json) → List Text
  | [] => []
  | (k, v) :: r => (quote k ++ ':' :: compact v) :: compactFields r

end

/-- A value with every element on a line of its own. -/
def pretty (v : Json) : String := .ofList (prettyAt 0 v)

end Json
end SourceMend
