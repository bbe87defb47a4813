import SourceMend.Text.Cut
import SourceMend.Text.Numeral

/-!
# Places in a YAML text

A cursor is what is left of a text, with the line and the column that it starts
at.  Columns decide how values are nested, so every step keeps count of them.
-/

namespace SourceMend.Yaml

/-! ## Characters -/

/-- A blank within a line. -/
def isBlank (c : Char) : Bool := c = ' ' || c = '\t'

/-- A character that ends a line. -/
def isBreak (c : Char) : Bool :=
  c = '\n' || c = '\r' || c = '\u0085' || c = '\u2028' || c = '\u2029'

/-- A letter, digit, underscore or hyphen. -/
def isNameChar (c : Char) : Bool := c.isAlphanum || c = '_' || c = '-'

/-- A character that may stand in a text at all. -/
def isAllowed (c : Char) : Bool :=
  let n := c.toNat
  c = '\t' || c = '\n' || c = '\r' || n = 0x85 || (0x20 ≤ n && n ≤ 0x7E) || (0xA0 ≤ n && n ≤ 0xD7FF)
    || (0xE000 ≤ n && n ≤ 0xFFFD) || 0x10000 ≤ n

/-- Whether a text is over or goes on with a blank or a line end. -/
def atGap : Text → Bool
  | [] => true
  | c :: _ => isBlank c || isBreak c

/-- Whether a line starts with the mark of a document's start or end. -/
def atDocumentMark : Text → Bool
  | '-' :: '-' :: '-' :: r => atGap r
  | '.' :: '.' :: '.' :: r => atGap r
  | _ => false

/-! ## Cursors -/

/-- What is left of a text and where it starts. -/
structure Cursor where
  /-- What is left. -/
  rest : Text
  /-- The number of lines before it. -/
  line : Nat := 0
  /-- The number of characters before it on its line. -/
  column : Nat := 0
  /-- The number of characters before it. -/
  index : Nat := 0

namespace Cursor

/-- The cursor after `n` characters of its line. -/
def skip (c : Cursor) (n : Nat) : Cursor :=
  { c with rest := c.rest.drop n, column := c.column + n, index := c.index + n }

/-- The cursor at `rest`, which is further on in the line. -/
def jump (c : Cursor) (rest : Text) : Cursor := c.skip (c.rest.length - rest.length)

/-- The cursor after a line end. -/
def nextLine (c : Cursor) : Cursor :=
  let n := match c.rest with
    | '\r' :: '\n' :: _ => 2
    | _ => 1
  { rest := c.rest.drop n, line := c.line + 1, column := 0, index := c.index + n }

/-- The character that a line end stands for. -/
def lineEnd (c : Cursor) : Char :=
  match c.rest with
  | '\u2028' :: _ => '\u2028'
  | '\u2029' :: _ => '\u2029'
  | _ => '\n'

/-- Whether the cursor is at the mark of a document's start or end. -/
def atMark (c : Cursor) : Bool := c.column = 0 && atDocumentMark c.rest

/-- The cursor after blanks. -/
def skipBlanks (c : Cursor) : Cursor := c.jump (c.rest.dropWhile isBlank)

/-- The cursor at the end of its line, if a comment starts here. -/
def skipComment (c : Cursor) : Cursor :=
  match c.rest with
  | '#' :: _ => c.jump (c.rest.dropWhile (!isBreak ·))
  | _ => c

end Cursor

/-! ## Gaps -/

/-- What stands between two words of a text.  Blanks next to a line end do not count. -/
structure Gap where
  /-- The blanks, if there is no line end. -/
  blanks : Text := []
  /-- The line ends. -/
  breaks : Text := []
  /-- Whether a backslash took the first line end away. -/
  escaped : Bool := false

namespace Gap

/-- Whether the words stand on different lines. -/
def hasBreak (g : Gap) : Bool := g.escaped || !g.breaks.isEmpty

/-- The text that a gap stands for.  A single line feed is a blank, and of several the first does
not count. -/
def text (g : Gap) : Text :=
  if g.escaped then g.breaks
  else
    match g.breaks with
    | [] => g.blanks
    | ['\n'] => [' ']
    | '\n' :: r => r
    | bs => bs

/-- The gap that goes on at a cursor, and the cursor after it.  On a later line a tab must not stand
before the column `indent`. -/
def scan (indent : Nat) : (fuel : Nat) → Gap → Cursor → Except String (Gap × Cursor)
  | 0, g, c => .ok (g, c)
  | fuel + 1, g, c =>
    match c.rest with
    | [] => .ok (g, c)
    | x :: _ =>
      if isBlank x then
        if g.hasBreak then
          if x = '\t' ∧ c.column < indent then .error "a tab violates the indentation"
          else scan indent fuel g (c.skip 1)
        else scan indent fuel { g with blanks := g.blanks ++ [x] } (c.skip 1)
      else if isBreak x then
        scan indent fuel { g with blanks := [], breaks := g.breaks ++ [c.lineEnd] } c.nextLine
      else .ok (g, c)

end Gap
end SourceMend.Yaml
