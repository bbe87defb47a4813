import SourceMend.Unicode.Property

/-!
# Quoted text

`quoted` writes a text between double quotes so that it can be read back.  A
quote, a backslash and the usual control characters are escaped with a
backslash.  Any other character that would not show on its own, and any that
joins itself to the character before, is written as its code point.
-/

namespace SourceMend.Text

/-- The categories of characters that do not show on their own. -/
def hiddenCategories : List String := ["cc", "cf", "cn", "co", "zl", "zp", "zs"]

/-- The characters that do not show on their own or join themselves to the one before. -/
def hiddenChars : CharSet :=
  let ranges (s : Option CharSet) := (s.getD .empty).ranges
  (CharSet.ofRanges
    (hiddenCategories.flatMap (fun n => ranges (Unicode.category? n))
      ++ ranges (Unicode.binary? "grext"))).difference (.single ' ')

/-- The digits of a number in hexadecimal, in lower case. -/
def hex (n : Nat) : Text := Nat.toDigits 16 n

/-- A character of a quoted text. -/
def escapeChar (hidden : CharSet) (c : Char) : Text :=
  match c with
  | '"' => ['\\', '"']
  | '\\' => ['\\', '\\']
  | '\n' => ['\\', 'n']
  | '\t' => ['\\', 't']
  | '\r' => ['\\', 'r']
  | '\x00' => ['\\', '0']
  | c =>
    if hidden.contains c then '\\' :: 'u' :: '\x7b' :: hex c.toNat ++ ['\x7d'] else [c]

/-- A text between double quotes. -/
def quoted (s : Text) : Text :=
  let hidden := hiddenChars
  '"' :: s.flatMap (escapeChar hidden) ++ ['"']

end SourceMend.Text
