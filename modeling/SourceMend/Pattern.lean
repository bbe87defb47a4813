import SourceMend.Pattern.Match
import SourceMend.Pattern.Parser
import SourceMend.Pattern.Size

/-!
# Patterns

A pattern is a regular expression that has been read.  `Pattern.compile` reads
one, and `Pattern.matches` lists its matches in a text.  They are in ascending
order and do not overlap, and an empty match never stands right at the end of
the match before it.
-/

namespace SourceMend

/-- A regular expression that has been read. -/
structure Pattern where
  /-- The text of the pattern. -/
  source : String
  /-- The expression, ready for matching. -/
  node : Pattern.Node CharSet Pattern.Look
  /-- The named groups with their numbers. -/
  names : List (String × Nat)
  deriving DecidableEq, Repr

/-- A match of a pattern in a text. -/
structure Match where
  /-- The number of characters before the match. -/
  start : Nat
  /-- The number of characters before the end of the match. -/
  stop : Nat
  /-- The text of the match. -/
  text : Text
  /-- The texts of the groups that took part, by number. -/
  groups : List (Nat × Text)
  deriving DecidableEq, Repr

namespace Match

/-- The text of a group, the whole match for zero. -/
def group? (m : Match) (i : Nat) : Option Text :=
  if i = 0 then some m.text else m.groups.lookup i

end Match

namespace Pattern

/-- The pattern that a text describes. -/
def compile (source : String) : Except Error Pattern := do
  let p ← Parsed.ofText? source.toList
  if p.expr.isTooLarge then throw .tooLarge
  return ⟨source, p.expr.node, p.names⟩

/-- The match from `start` to the end state `s` in a text of some characters. -/
def matchOf (chars : Array Char) (start : Nat) (s : State) : Match :=
  let slice (a b : Nat) : Text := (chars.extract (chars.size - a) (chars.size - b)).toList
  { start := chars.size - start
    stop := chars.size - s.left
    text := slice start s.left
    groups := s.groups.map fun g => (g.1, slice g.2.1 g.2.2) }

/-- The matches of a pattern in a text, from the left. -/
def «matches» (p : Pattern) (s : Text) : List Match :=
  let chars := s.toArray
  ((Fitted.ofNode p.node s).findAll chars.size false).map fun m => matchOf chars m.1 m.2

end Pattern
end SourceMend
