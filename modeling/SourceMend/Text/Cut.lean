import SourceMend.Text.Blank

/-!
# Cutting a text

`cutAt` splits a text at the leftmost occurrence of a separator and `cutLast`
at the rightmost occurrence of a character.  Neither keeps the separator.
`pieces` splits at every occurrence of a character, and `lines` splits a text
into its lines: each ends at a line feed, and one carriage return before that
line feed belongs to the terminator.

Paths are cut into bytes in the same way as texts into characters, so `cutLast`,
`pieces` and `join` are defined for lists of either.
-/

namespace SourceMend.Text

/-! ## One cut -/

/-- The parts before and after the leftmost occurrence of `sep`. -/
def cutAt (sep : Text) : Text → Option (Text × Text)
  | [] => if sep.isEmpty then some ([], []) else none
  | c :: r =>
    match sep.isPrefixOf? (c :: r) with
    | some rest => some ([], rest)
    | none => (cutAt sep r).map fun p => (c :: p.1, p.2)

/-- The parts before and after the rightmost occurrence of `x`. -/
def cutLast {α : Type} [DecidableEq α] (x : α) : List α → Option (List α × List α)
  | [] => none
  | c :: r =>
    match cutLast x r with
    | some p => some (c :: p.1, p.2)
    | none => if c = x then some ([], r) else none

/-! ## All cuts -/

/-- The pieces of a text between the occurrences of `x`, at least one. -/
def pieces {α : Type} [DecidableEq α] (x : α) : List α → List (List α)
  | [] => [[]]
  | c :: r =>
    if c = x then [] :: pieces x r
    else
      match pieces x r with
      | [] => [[c]]
      | p :: ps => (c :: p) :: ps

/-- A line without the carriage return that ends it, if there is one. -/
def dropReturn : Text → Text
  | [] => []
  | [c] => if c = '\r' then [] else [c]
  | c :: d :: r => c :: dropReturn (d :: r)

/-- The lines of a text without their terminators.  An unterminated end is a line when it is not
empty. -/
def lines (s : Text) : List Text :=
  let ps := pieces '\n' s
  let ended := ps.dropLast.map dropReturn
  match ps.getLast? with
  | some (c :: r) => ended ++ [c :: r]
  | _ => ended

/-- The texts joined, with `sep` between neighbours. -/
def join {α : Type} (sep : List α) : List (List α) → List α
  | [] => []
  | [t] => t
  | t :: u :: r => t ++ sep ++ join sep (u :: r)

end SourceMend.Text
