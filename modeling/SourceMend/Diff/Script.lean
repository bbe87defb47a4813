import SourceMend.Diff.Edit
import SourceMend.Diff.Meeting

/-!
# Shortest scripts

`Script.between` gives a script from one list to another that removes and adds
as little as possible.  What the lists have in common at their two ends is kept.
The rest is cut in two where a shortest script has its middle, and the parts are
treated alike.
-/

namespace SourceMend.Diff

variable {α : Type} [DecidableEq α]

/-- What two lists have in common at their start, and the rest of each. -/
def commonStart : List α → List α → List α × List α × List α
  | a :: as, b :: bs =>
    if a = b then
      let (c, x, y) := commonStart as bs
      (a :: c, x, y)
    else ([], a :: as, b :: bs)
  | as, bs => ([], as, bs)

/-- The rest of each list before what they have in common at their end, and that end. -/
def commonEnd (a b : List α) : List α × List α × List α :=
  let (c, x, y) := commonStart a.reverse b.reverse
  (x.reverse, y.reverse, c.reverse)

namespace Script

/-- A row of kept elements, none if it is empty. -/
def keeping (xs : List α) : Script α := if xs.isEmpty then [] else [.keep xs]

/-- A script between two lists.  The fuel bounds the number of times that they are cut. -/
def build : (fuel : Nat) → List α → List α → Script α
  | 0, a, b => [.remove a, .add b]
  | fuel + 1, a, b =>
    let (start, a, b) := commonStart a b
    let (a, b, finish) := commonEnd a b
    let inner : Script α :=
      match a, b with
      | [], [] => []
      | a, [] => [.remove a]
      | [], b => [.add b]
      | a, b =>
        match meeting a b with
        | some (x, y) => build fuel (a.take x) (b.take y) ++ build fuel (a.drop x) (b.drop y)
        | none => [.remove a, .add b]
    keeping start ++ inner ++ keeping finish

/-- A script between two lists that removes and adds as little as possible. -/
def between (a b : List α) : Script α := build (a.length + b.length + 1) a b

end Script
end SourceMend.Diff
