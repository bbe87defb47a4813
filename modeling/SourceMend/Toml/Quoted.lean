import SourceMend.Text.Cut
import SourceMend.Text.Numeral

/-!
# Quoted texts of TOML

There are four kinds of quoted texts.  Between double quotes a backslash starts
an escape, between single quotes it does not.  Tripled quotes allow line feeds,
and a line feed right after the opening quotes does not count.  Control
characters other than tabs cannot be written as they are.
-/

namespace SourceMend.Toml

/-- Whether a character may be written as it is. -/
def isPlain (c : Char) : Bool := c = '\t' || (0x20 ≤ c.toNat && c.toNat ≠ 0x7F)

/-- Whether a character is a blank within a line. -/
def isGap (c : Char) : Bool := c = ' ' || c = '\t'

/-- The character with a code point in hexadecimal. -/
def codePoint? (ds : Text) : Option Char :=
  (Text.digits 16 ds).bind fun n =>
    if n < 0xD800 || (0xDFFF < n && n < 0x110000) then some (Char.ofNat n) else none

/-- The character of an escape with one letter. -/
def simpleEscape? : Char → Option Char
  | 'b' => some '\x08'
  | 't' => some '\t'
  | 'n' => some '\n'
  | 'f' => some '\x0C'
  | 'r' => some '\r'
  | 'e' => some '\x1B'
  | '"' => some '"'
  | '\\' => some '\\'
  | _ => none

/-- The number of hexadecimal digits of an escape with a code point. -/
def pointDigits? : Char → Option Nat
  | 'x' => some 2
  | 'u' => some 4
  | 'U' => some 8
  | _ => none

/-- The character of the escape at the start of a text, and the number of characters that it takes
after the backslash. -/
def escape? : Text → Option (Char × Nat)
  | [] => none
  | c :: r =>
    match simpleEscape? c, pointDigits? c with
    | some e, _ => some (e, 1)
    | none, some n => (codePoint? (r.take n)).bind fun p =>
        if n ≤ r.length then some (p, n + 1) else none
    | none, none => none

/-- What is said of an escape that does not exist. -/
def badEscape : String := "invalid escape"

/-- What is said of a character that has to be escaped. -/
def badCharacter : String := "invalid character in a text"

/-- What is said of a text without an end. -/
def unclosed : String := "unclosed text"

/-- The text up to a double quote, and the rest.  `skip` characters belong to an escape that has
been read. -/
def basic (skip : Nat) : Text → Except String (Text × Text)
  | [] => .error unclosed
  | c :: r =>
    if 0 < skip then basic (skip - 1) r
    else if c = '"' then .ok ([], r)
    else if c = '\\' then
      match escape? r with
      | some (e, n) => (basic n r).map fun p => (e :: p.1, p.2)
      | none => .error badEscape
    else if isPlain c then (basic 0 r).map fun p => (c :: p.1, p.2)
    else .error badCharacter

/-- The text up to a single quote, and the rest. -/
def literal : Text → Except String (Text × Text)
  | [] => .error unclosed
  | c :: r =>
    if c = '\'' then .ok ([], r)
    else if isPlain c then (literal r).map fun p => (c :: p.1, p.2)
    else .error badCharacter

/-- The end of a text between tripled quotes: up to two quotes before the closing ones belong to
the text. -/
def tripleEnd? (q : Char) : Text → Option (Text × Text)
  | a :: b :: c :: r =>
    if a = q ∧ b = q ∧ c = q then
      match r with
      | d :: e :: r =>
        if d = q ∧ e = q then some ([q, q], r)
        else if d = q then some ([q], e :: r)
        else some ([], d :: e :: r)
      | [d] => if d = q then some ([q], []) else some ([], [d])
      | [] => some ([], [])
    else none
  | _ => none

/-- Whether a text goes on with a line end. -/
def atLineEnd : Text → Bool
  | '\n' :: _ => true
  | '\r' :: '\n' :: _ => true
  | _ => false

/-- Whether a character may stand at the start of a text between tripled quotes. -/
def isLinePlain (c : Char) (r : Text) : Bool :=
  isPlain c || c = '\n' || (c = '\r' && r.head? == some '\n')

/-- What is skipped in a text between tripled double quotes. -/
inductive Skip where
  /-- Some characters of an escape. -/
  | escape (n : Nat)
  /-- Blanks and line ends after a backslash at the end of a line. -/
  | blanks

/-- The text up to tripled double quotes, and the rest. -/
def basicLines (skip : Skip) : Text → Except String (Text × Text)
  | [] => .error unclosed
  | c :: r =>
    match skip with
    | .escape (n + 1) => basicLines (.escape n) r
    | skip =>
      let skipping := match skip with
        | .blanks => isGap c || c = '\n' || (c = '\r' && r.head? == some '\n')
        | _ => false
      if skipping then basicLines .blanks r
      else
        match tripleEnd? '"' (c :: r) with
        | some p => .ok p
        | none =>
          if c = '\\' then
            if atLineEnd (r.dropWhile isGap) then basicLines .blanks r
            else
              match escape? r with
              | some (e, n) => (basicLines (.escape n) r).map fun p => (e :: p.1, p.2)
              | none => .error badEscape
          else if isLinePlain c r then
            (basicLines (.escape 0) r).map fun p => (c :: p.1, p.2)
          else .error badCharacter

/-- The text up to tripled single quotes, and the rest. -/
def literalLines : Text → Except String (Text × Text)
  | [] => .error unclosed
  | c :: r =>
    match tripleEnd? '\'' (c :: r) with
    | some p => .ok p
    | none =>
      if isLinePlain c r then (literalLines r).map fun p => (c :: p.1, p.2)
      else .error badCharacter

/-- A text without the line end that it starts with. -/
def dropLineEnd : Text → Text
  | '\n' :: r => r
  | '\r' :: '\n' :: r => r
  | s => s

/-- The quoted text at the start of a text, and the rest. -/
def quotedText? : Text → Option (Except String (Text × Text))
  | '"' :: '"' :: '"' :: r => some (basicLines (.escape 0) (dropLineEnd r))
  | '"' :: r => some (basic 0 r)
  | '\'' :: '\'' :: '\'' :: r => some (literalLines (dropLineEnd r))
  | '\'' :: r => some (literal r)
  | _ => none

end SourceMend.Toml
