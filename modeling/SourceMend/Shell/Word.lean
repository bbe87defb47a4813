import SourceMend.Text.Cut

/-!
# Words of a shell command

A word is written with plain characters, quoted text and parameters, in any mix.
Quotes and backslashes take away the meaning of the characters that they cover.
A parameter stands for a text that is put in when the command is carried out.
-/

namespace SourceMend.Shell

/-- A part of a word. -/
inductive Piece where
  /-- Characters that stand for themselves. -/
  | text (s : Text) (quoted : Bool)
  /-- A parameter. -/
  | parameter (name : String) (quoted : Bool)
  deriving DecidableEq, Repr

/-- A word of a command. -/
abbrev Word := List Piece

namespace Word

/-- The text of a word without quotes and parameters. -/
def literal? : Word → Option Text
  | [] => some []
  | .text s false :: r => (literal? r).map (s ++ ·)
  | _ :: _ => none

/-- The text of a word in which only text stands. -/
def plain? : Word → Option Text
  | [] => some []
  | .text s _ :: r => (plain? r).map (s ++ ·)
  | .parameter .. :: _ => none

end Word

/-! ## Characters -/

/-- A blank between words. -/
def isGap (c : Char) : Bool := c = ' ' || c = '\t'

/-- A character that ends a word unless it is quoted. -/
def endsWord (c : Char) : Bool := isGap c || "\n;&|()<>".toList.contains c

/-- A character that a name may start with. -/
def isNameStart (c : Char) : Bool := c.isAlpha || c = '_'

/-- A character of a name. -/
def isNameChar (c : Char) : Bool := c.isAlphanum || c = '_'

/-- The characters that are parameters by themselves. -/
def specialParameters : List Char := "@*#?$!-0123456789".toList

namespace Word

/-! ## Reading -/

/-- The parameter after a dollar sign, and what follows it.  A dollar sign without a parameter
stands for itself.  Commands in the place of words are not known. -/
def readParameter (quoted : Bool) : Text → Option (Piece × Text)
  | '\x7b' :: r => do
    let (name, rest) ← Text.cutAt ['\x7d'] r
    if name ≠ [] ∧ (name.all isNameChar ∨ name.length = 1) then
      return (.parameter (.ofList name) quoted, rest)
    else none
  | '(' :: _ => none
  | c :: r =>
    if specialParameters.contains c then some (.parameter c.toString quoted, r)
    else if isNameStart c then
      let s := c :: r
      some (.parameter (.ofList (s.takeWhile isNameChar)) quoted, s.dropWhile isNameChar)
    else some (.text ['$'] quoted, c :: r)
  | [] => some (.text ['$'] quoted, [])

/-- Whether a backslash between double quotes takes away the meaning of a character. -/
def isEscapable (c : Char) : Bool := "$\"\\".toList.contains c || c.toNat = 0x60

/-- The pieces up to a closing double quote, and what follows it.  Every piece takes a character
away. -/
def readQuoted : (fuel : Nat) → Text → Option (Word × Text)
  | 0, _ => none
  | _, [] => none
  | fuel + 1, c :: r =>
    if c = '"' then some ([], r)
    else if c.toNat = 0x60 then none
    else
      match c, r with
      | '\\', '\n' :: rest => readQuoted fuel rest
      | '\\', d :: rest =>
        let s := if isEscapable d then [d] else ['\\', d]
        (readQuoted fuel rest).map fun p => (.text s true :: p.1, p.2)
      | '$', r => do
        let (piece, rest) ← readParameter true r
        let (w, rest) ← readQuoted fuel rest
        return (piece :: w, rest)
      | c, r => (readQuoted fuel r).map fun p => (.text [c] true :: p.1, p.2)

/-- The pieces that a character begins outside of quotes, and what follows them. -/
def readPiece (c : Char) (r : Text) : Option (Word × Text) :=
  if c = '\'' then do
    let (s, rest) ← Text.cutAt ['\''] r
    return ([.text s true], rest)
  else if c = '"' then do
    let (w, rest) ← readQuoted (r.length + 1) r
    return (.text [] true :: w, rest)
  else if c.toNat = 0x60 then none
  else
    match c, r with
    | '\\', '\n' :: rest => some ([], rest)
    | '\\', d :: rest => some ([.text [d] true], rest)
    | '$', r => (readParameter false r).map fun p => ([p.1], p.2)
    | c, r => some ([.text [c] false], r)

/-- The word that a text starts with, and what follows it.  Every piece takes a character away. -/
def read : (fuel : Nat) → Text → Option (Word × Text)
  | 0, _ => none
  | _, [] => some ([], [])
  | fuel + 1, c :: r =>
    if endsWord c then some ([], c :: r)
    else do
      let (piece, rest) ← readPiece c r
      let (w, rest) ← read fuel rest
      return (piece ++ w, rest)

end Word
end SourceMend.Shell
