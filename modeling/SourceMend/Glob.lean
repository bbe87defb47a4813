import SourceMend.Text.Blank

/-!
# File filters

A file filter is a pattern for paths.  `?` stands for one character and `*` for
any number of characters, a slash included.  A set in brackets stands for one
character that it lists, or after `!` for one that it does not list.  `**` has
to fill a whole component of the pattern.  It stands for any number of whole
components, or for all that is left.

`Glob.ofText?` reads a filter and tells where the first fault is.
-/

namespace SourceMend

/-- A part of a file filter. -/
inductive Glob.Token where
  /-- One character. -/
  | char (c : Char)
  /-- Any one character. -/
  | any
  /-- Any number of characters. -/
  | run
  /-- Any number of whole components, or all that is left. -/
  | components
  /-- One character in one of some ranges, or in none of them if `negated`. -/
  | oneOf (negated : Bool) (ranges : List (Char × Char))
  deriving DecidableEq, Repr

/-- A file filter. -/
structure Glob where
  /-- The text of the filter. -/
  source : String
  /-- The parts. -/
  tokens : List Glob.Token
  deriving DecidableEq, Repr

namespace Glob

/-! ## Faults -/

/-- What can be wrong with a filter. -/
inductive Fault where
  /-- A set is not closed. -/
  | range
  /-- There are more than two stars in a row. -/
  | stars
  /-- Two stars do not fill a whole component. -/
  | component
  deriving DecidableEq, Repr

/-- What is wrong with a filter, and near which character. -/
structure Error where
  /-- The number of characters before the fault. -/
  position : Nat
  /-- The fault. -/
  fault : Fault
  deriving DecidableEq, Repr

/-- The text of a fault. -/
def Fault.message : Fault → String
  | range => "invalid range pattern"
  | stars => "wildcards are either regular `*` or recursive `**`"
  | component => "recursive wildcards must form a single path component"

/-- The text of an error. -/
def Error.message (e : Error) : String :=
  "Pattern syntax error near position " ++ toString e.position ++ ": " ++ e.fault.message

/-! ## Reading -/

/-- The ranges that the text between brackets lists. -/
def listed : Text → List (Char × Char)
  | a :: '-' :: b :: r => (a, b) :: listed r
  | a :: r => (a, a) :: listed r
  | [] => []

/-- The set after its opening bracket, and what follows it.  The first listed character may be a
closing bracket. -/
def set? (s : Text) : Option (Token × Text) :=
  let upTo (first : Char) (r : Text) : Option (Text × Text) :=
    match r.span (· != ']') with
    | (inner, ']' :: rest) => some (first :: inner, rest)
    | _ => none
  match s with
  | '!' :: c :: r => (upTo c r).map fun p => (.oneOf true (listed p.1), p.2)
  | '!' :: [] => none
  | c :: r => (upTo c r).map fun p => (.oneOf false (listed p.1), p.2)
  | [] => none

/-- The parts of a filter from the character `position` on.  `previous` is the character before,
and `soFar` are the parts before, last first.  Every step consumes a character, so as much fuel as
there are characters is enough. -/
def read (fuel position : Nat) (previous : Option Char) (soFar : List Token) (s : Text) :
    Except Error (List Token) :=
  match fuel, s with
  | 0, _ => .ok soFar.reverse
  | _, [] => .ok soFar.reverse
  | fuel + 1, c :: r =>
    match c with
    | '?' => read fuel (position + 1) (some c) (.any :: soFar) r
    | '[' =>
      match set? r with
      | some (t, rest) =>
        read fuel (position + (s.length - rest.length)) (some ']') (t :: soFar) rest
      | none => .error ⟨position, .range⟩
    | '*' =>
      let stars := (s.takeWhile (· == '*')).length
      let rest := s.drop stars
      if stars = 1 then read fuel (position + 1) (some c) (.run :: soFar) rest
      else if 2 < stars then .error ⟨position + 2, .stars⟩
      else if previous.any (· != '/') then .error ⟨position - 1, .component⟩
      else
        let soFar := if 1 < soFar.length && soFar.head? == some .components then soFar
          else .components :: soFar
        match rest with
        | [] => .ok soFar.reverse
        | '/' :: rest => read fuel (position + 3) (some '/') soFar rest
        | _ => .error ⟨position + 2, .component⟩
    | c => read fuel (position + 1) (some c) (.char c :: soFar) r

/-- The filter that a text describes. -/
def ofText? (source : String) : Except Error Glob :=
  (read source.toList.length 0 none [] source.toList).map (⟨source, ·⟩)

/-! ## Matching

The functions below work on tables that tell, for every suffix of a text, the
longest first, whether some parts match all of it.
-/

/-- Whether a part stands for one character, and for this one. -/
def Token.fits (t : Token) (c : Char) : Bool :=
  match t with
  | char x => x == c
  | any => true
  | oneOf negated ranges => negated != ranges.any fun r => r.1 ≤ c && c ≤ r.2
  | _ => false

/-- The table of no parts: they match the empty suffix only. -/
def atEnd : Text → List Bool
  | [] => [true]
  | _ :: r => false :: atEnd r

/-- The table of a part for one character followed by parts with the table `after`. -/
def single (fits : Char → Bool) : Text → List Bool → List Bool
  | c :: r, _ :: b :: after => (fits c && b) :: single fits r (b :: after)
  | _, _ => [false]

/-- The table of a part for any characters followed by parts with the table `after`. -/
def anyRun : List Bool → List Bool
  | [] => []
  | b :: after => (b || after.any id) :: anyRun after

/-- The table of the parts after a `**` that has taken at least one whole component. -/
def afterComponent : Text → List Bool → List Bool
  | c :: r, _ :: b :: after =>
    let later := afterComponent r (b :: after)
    ((c == '/' && b) || later.headD false) :: later
  | _, _ => [false]

/-- The table of a `**` followed by parts with the table `after`. -/
def wholeComponents (s : Text) (after : List Bool) : List Bool :=
  let atLast := after.getLastD false
  List.zipWith (fun b l => b || l || atLast) after (afterComponent s after)

/-- The table of some parts. -/
def table (s : Text) : List Token → List Bool
  | [] => atEnd s
  | .run :: ts => anyRun (table s ts)
  | .components :: ts => wholeComponents s (table s ts)
  | t :: ts => single t.fits s (table s ts)

/-- Whether a filter matches a whole text. -/
def accepts (g : Glob) (s : String) : Bool := (table s.toList g.tokens).headD false

end Glob
end SourceMend
