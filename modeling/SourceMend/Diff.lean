import SourceMend.Diff.Slide
import SourceMend.Text.Cut

/-!
# Unified differences

`unified` shows how one text becomes another.  Lines that go are marked with a
minus sign, lines that come with a plus sign, and up to three unchanged lines
around them with a blank.  Where more lines are left out, `...` stands between
the parts.  Equal texts have no difference to show.
-/

namespace SourceMend.Diff

/-! ## Lines -/

/-- The lines of a text with their terminators: a line feed, a carriage return or both. -/
def linesOf : Text → List Text
  | [] => []
  | '\r' :: '\n' :: r => ['\r', '\n'] :: linesOf r
  | c :: r =>
    if c = '\n' ∨ c = '\r' then [c] :: linesOf r
    else
      match linesOf r with
      | [] => [[c]]
      | l :: ls => (c :: l) :: ls

/-! ## Parts -/

/-- A stretch of a script: unchanged lines, or lines that go and lines that come. -/
inductive Stretch where
  /-- Lines that stay. -/
  | same (lines : List Text)
  /-- Lines that go and the lines that come for them. -/
  | changed (removed added : List Text)
  deriving DecidableEq, Repr

/-- An edit in front of some stretches, united with the first if both are of a kind. -/
def consEdit (e : Edit Text) (ss : List Stretch) : List Stretch :=
  match e, ss with
  | .keep xs, .same ys :: r => .same (xs ++ ys) :: r
  | .keep xs, r => .same xs :: r
  | .remove xs, .changed ys zs :: r => .changed (xs ++ ys) zs :: r
  | .remove xs, r => .changed xs [] :: r
  | .add xs, .changed ys zs :: r => .changed ys (xs ++ zs) :: r
  | .add xs, r => .changed [] xs :: r

/-- The stretches of a script. -/
def stretches (s : Script Text) : List Stretch := s.foldr consEdit []

/-- The number of unchanged lines around a change. -/
def context : Nat := 3

/-- The last of some lines that go with a change after them. -/
def leading (xs : List Text) : List Text := xs.drop (xs.length - context)

/-- The parts of stretches that follow a change, in which unchanged lines are left out where there
are too many.  `part` holds what the current part shows so far. -/
def partsFrom (part : List Stretch) : List Stretch → List (List Stretch)
  | [] => [part]
  | [.same xs] => [part ++ [.same (xs.take context)]]
  | .same xs :: r =>
    if 2 * context < xs.length then
      (part ++ [.same (xs.take context)]) :: partsFrom [.same (leading xs)] r
    else partsFrom (part ++ [.same xs]) r
  | s :: r => partsFrom (part ++ [s]) r

/-- The parts of a script that are shown. -/
def parts : List Stretch → List (List Stretch)
  | [] => []
  | [.same _] => []
  | .same xs :: r => partsFrom [.same (leading xs)] r
  | ss => partsFrom [] ss

/-! ## Text -/

/-- Whether a line has a terminator. -/
def isTerminated (line : Text) : Bool :=
  match line.getLast? with
  | some c => c == '\n' || c == '\r'
  | none => false

/-- A line with a sign in front of it and a terminator. -/
def showLine (sign : Char) (line : Text) : Text :=
  sign :: line ++ (if isTerminated line then [] else ['\n'])

/-- A stretch, what goes before what comes. -/
def Stretch.show : Stretch → Text
  | same xs => xs.flatMap (showLine ' ')
  | changed xs ys => xs.flatMap (showLine '-') ++ ys.flatMap (showLine '+')

/-- The lines that stand for lines left out. -/
def gap : Text := "...\n".toList

/-- How the text `a` becomes the text `b`. -/
def unified (a b : Text) : Text :=
  let script := (Script.between (linesOf a) (linesOf b)).settle
  Text.join gap ((parts (stretches script)).map fun p => p.flatMap Stretch.show)

end SourceMend.Diff
