import SourceMend.Shell.Word
import SourceMend.Text.Numeral

/-!
# Tokens of a shell script

A script is a row of words, marks between commands, and redirections.  A comment
goes from a `#` at the start of a word to the end of the line.
-/

namespace SourceMend.Shell

/-- What stands between commands. -/
inductive Mark where
  /-- A semicolon. -/
  | semicolon
  /-- The end of a line. -/
  | line
  /-- A single ampersand. -/
  | background
  /-- A double ampersand. -/
  | both
  /-- A double bar. -/
  | either
  /-- A single bar. -/
  | pipe
  /-- An opening parenthesis. -/
  | opening
  /-- A closing parenthesis. -/
  | closing
  deriving DecidableEq, Repr

/-- What is done with a stream. -/
inductive RedirectKind where
  /-- It is read from a file. -/
  | read
  /-- It is written to a file. -/
  | write
  /-- It is added to a file. -/
  | append
  /-- It becomes the same as another. -/
  | same
  deriving DecidableEq, Repr

/-- A part of a script. -/
inductive Token where
  /-- A word. -/
  | word (w : Word)
  /-- A mark between commands. -/
  | mark (m : Mark)
  /-- A redirection of a stream, which the next word belongs to. -/
  | redirect (stream : Nat) (kind : RedirectKind)
  deriving DecidableEq, Repr

namespace Token

/-- The redirection that a text starts with, if a stream is named in front of it, and what
follows it. -/
def readRedirect (stream? : Option Nat) : Text → Option (Token × Text)
  | '>' :: '&' :: r => some (.redirect (stream?.getD 1) .same, r)
  | '>' :: '>' :: r => some (.redirect (stream?.getD 1) .append, r)
  | '>' :: '|' :: r => some (.redirect (stream?.getD 1) .write, r)
  | '>' :: r => some (.redirect (stream?.getD 1) .write, r)
  | '<' :: '<' :: _ => none
  | '<' :: '&' :: r => some (.redirect (stream?.getD 0) .same, r)
  | '<' :: r => some (.redirect (stream?.getD 0) .read, r)
  | _ => none

/-- The mark that a text starts with, and what follows it. -/
def readMark : Text → Option (Token × Text)
  | '&' :: '&' :: r => some (.mark .both, r)
  | '|' :: '|' :: r => some (.mark .either, r)
  | ';' :: ';' :: _ => none
  | ';' :: r => some (.mark .semicolon, r)
  | '\n' :: r => some (.mark .line, r)
  | '&' :: r => some (.mark .background, r)
  | '|' :: r => some (.mark .pipe, r)
  | '(' :: r => some (.mark .opening, r)
  | ')' :: r => some (.mark .closing, r)
  | _ => none

/-- The stream that is named right in front of a redirection. -/
def streamBefore : Text → Option Nat
  | c :: '<' :: _ => Text.digit? c
  | c :: '>' :: _ => Text.digit? c
  | _ => none

/-- The token that a text starts with, and what follows it. -/
def read (s : Text) : Option (Token × Text) :=
  match streamBefore s with
  | some n => readRedirect (some n) (s.drop 1)
  | none =>
    match s with
    | '<' :: _ => readRedirect none s
    | '>' :: _ => readRedirect none s
    | c :: _ =>
      if endsWord c then readMark s
      else (Word.read (s.length + 1) s).map fun p => (.word p.1, p.2)
    | [] => none

/-- The tokens of a text.  Every round takes a character away. -/
def readAll : (fuel : Nat) → Text → Option (List Token)
  | 0, _ => none
  | _, [] => some []
  | fuel + 1, c :: r =>
    if isGap c then readAll fuel r
    else if c = '#' then readAll fuel (r.dropWhile (· != '\n'))
    else
      match c, r with
      | '\\', '\n' :: rest => readAll fuel rest
      | c, r => do
        let (t, rest) ← read (c :: r)
        let ts ← readAll fuel rest
        return t :: ts

/-- The tokens of a script. -/
def ofText? (s : Text) : Option (List Token) := readAll (s.length + 1) s

end Token
end SourceMend.Shell
