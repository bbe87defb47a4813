import SourceMend.CharSet

/-!
# Regular expressions

An expression says which texts match and which match is preferred.  In a
sequence the earlier part decides first, an alternative is preferred to those
after it, and a repetition prefers one more round if it is greedy and one round
less if it is not.

The functions `sequence`, `alternatives` and `rounds` build expressions in a
reduced form.  Neighbouring literals are joined, nested sequences and
alternatives are flattened, alternatives of single characters become a set, and
parts that all alternatives begin with are moved in front of them.  The last of
these decides between alternatives after their common part has matched, and so
belongs to what an expression means.
-/

namespace SourceMend.Pattern

/-! ## Assertions -/

/-- The ways in which a position can lie at a word. -/
inductive WordEdge where
  /-- Exactly one side is a word character. -/
  | boundary
  /-- Both sides or neither side is a word character. -/
  | inside
  /-- A word starts here. -/
  | start
  /-- A word ends here. -/
  | stop
  /-- The character before is no word character. -/
  | halfStart
  /-- The character after is no word character. -/
  | halfStop
  deriving DecidableEq, Repr

/-- A condition on a position of the text. -/
inductive Look where
  /-- The text starts here. -/
  | textStart
  /-- The text ends here. -/
  | textEnd
  /-- A line starts here, lines ending in `\n`. -/
  | lineStart
  /-- A line ends here, lines ending in `\n`. -/
  | lineEnd
  /-- A line starts here, lines ending in `\r`, `\n` or `\r\n`. -/
  | anyLineStart
  /-- A line ends here, lines ending in `\r`, `\n` or `\r\n`. -/
  | anyLineEnd
  /-- A word lies here in some way, with `words` as the word characters. -/
  | word (edge : WordEdge) (words : CharSet)
  deriving DecidableEq, Repr

namespace WordEdge

/-- Whether a position with the given sides lies at a word in this way. -/
def holds (e : WordEdge) (before after : Bool) : Bool :=
  match e with
  | boundary => before != after
  | inside => before == after
  | start => !before && after
  | stop => before && !after
  | halfStart => !before
  | halfStop => !after

end WordEdge

/-- Whether an assertion holds between two characters, where the ends of the text have none. -/
def Look.holds (l : Look) (before after : Option Char) : Bool :=
  match l with
  | textStart => before.isNone
  | textEnd => after.isNone
  | lineStart => before.isNone || before == some '\n'
  | lineEnd => after.isNone || after == some '\n'
  | anyLineStart =>
    before.isNone || before == some '\n' || (before == some '\r' && after != some '\n')
  | anyLineEnd =>
    after.isNone || after == some '\r' || (after == some '\n' && before != some '\r')
  | word edge words => edge.holds (before.any words.contains) (after.any words.contains)

/-! ## Expressions -/

/-- A regular expression. -/
inductive Expr where
  /-- Matches the empty text. -/
  | empty
  /-- Matches nothing. -/
  | never
  /-- Matches these characters, at least one. -/
  | literal (cs : List Char)
  /-- Matches one character of a set. -/
  | set (s : CharSet)
  /-- Matches the empty text where an assertion holds. -/
  | look (l : Look)
  /-- Matches as `e` does and keeps the place as group `i`. -/
  | group (i : Nat) (e : Expr)
  /-- Matches `a` and then `b`. -/
  | seq (a b : Expr)
  /-- Matches `a`, or else `b`. -/
  | alt (a b : Expr)
  /-- Matches `e` at least `min` and at most `max` times. -/
  | rounds (min : Nat) (max : Option Nat) (greedy : Bool) (e : Expr)
  deriving DecidableEq, Repr, Inhabited

namespace Expr

/-- The fewest characters of a match, if there is any match. -/
def minLength? : Expr → Option Nat
  | empty => some 0
  | never => none
  | literal cs => some cs.length
  | set _ => some 1
  | look _ => some 0
  | group _ e => e.minLength?
  | seq a b => a.minLength?.bind fun m => b.minLength?.map (m + ·)
  | alt a b => a.minLength?.bind fun m => b.minLength?.map (Nat.min m)
  | rounds min _ _ e => e.minLength?.map (min * ·)

/-- Whether every match has at least one character, and there is one. -/
def consumes (e : Expr) : Bool := e.minLength?.any (0 < ·)

/-- Whether an expression matches the empty text only. -/
def isAlwaysEmpty : Expr → Bool
  | empty => true
  | look _ => true
  | never => false
  | literal _ => false
  | set _ => false
  | group _ e => e.isAlwaysEmpty
  | seq a b => a.isAlwaysEmpty && b.isAlwaysEmpty
  | alt a b => a.isAlwaysEmpty && b.isAlwaysEmpty
  | rounds _ max _ e => max.isSome && e.isAlwaysEmpty

/-! ## Reduced forms -/

/-- An expression that matches one character of a set. -/
def ofSet (s : CharSet) : Expr :=
  if s.isEmpty then never
  else
    match s.single? with
    | some c => literal [c]
    | none => set s

/-- The parts of a sequence. -/
def parts : Expr → List Expr
  | seq a b => a.parts ++ b.parts
  | empty => []
  | e => [e]

/-- The branches of an alternative. -/
def branches : Expr → List Expr
  | alt a b => a.branches ++ b.branches
  | e => [e]

/-- Parts with neighbouring literals joined. -/
def joinLiterals : List Expr → List Expr
  | [] => []
  | e :: rest =>
    match e, joinLiterals rest with
    | literal cs, literal ds :: more => literal (cs ++ ds) :: more
    | e, more => e :: more

/-- Parts one after another, without further reduction. -/
def chain : List Expr → Expr
  | [] => empty
  | [e] => e
  | e :: f :: rest => seq e (chain (f :: rest))

/-- Branches one after another, without further reduction. -/
def choice : List Expr → Expr
  | [] => never
  | [e] => e
  | e :: f :: rest => alt e (choice (f :: rest))

/-- Expressions one after another. -/
def sequence (es : List Expr) : Expr := chain (joinLiterals (es.flatMap parts))

/-- The parts of an expression that is a sequence. -/
def sequenceParts? : Expr → Option (List Expr)
  | seq a b => some (a.parts ++ b.parts)
  | _ => none

/-- The parts that two lists begin with alike. -/
def commonParts : List Expr → List Expr → List Expr
  | a :: as, b :: bs => if a = b then a :: commonParts as bs else []
  | _, _ => []

/-- The common first parts of some sequences, with the sequences. -/
def sharedStart? (es : List Expr) : Option (List Expr × List (List Expr)) := do
  let lists ← es.mapM sequenceParts?
  match lists with
  | [] => none
  | first :: rest =>
    let shared := rest.foldl commonParts first
    if shared.isEmpty then none else some (shared, lists)

/-- The character that an expression matches, if it is a literal of one. -/
def singleChar? : Expr → Option Char
  | literal [c] => some c
  | _ => none

/-- The set of an expression that matches one character of a set. -/
def charSet? : Expr → Option CharSet
  | set s => some s
  | never => some .empty
  | _ => none

/-- One of several branches, the first preferred.  Moving common parts in front shortens the
branches, so as many rounds of it as the fuel allows are enough. -/
def alternativesWith (fuel : Nat) (es : List Expr) : Expr :=
  match fuel, es.flatMap branches with
  | _, [] => never
  | _, [e] => e
  | 0, es => choice es
  | fuel + 1, es =>
    match es.mapM singleChar? with
    | some cs => ofSet (.ofChars cs)
    | none =>
      match es.mapM charSet? with
      | some ss => ofSet (.ofRanges (ss.flatMap (·.ranges)))
      | none =>
        match sharedStart? es with
        | none => choice es
        | some (shared, lists) =>
          sequence (shared ++
            [alternativesWith fuel (lists.map fun l => chain (l.drop shared.length))])

/-- The number of nodes of an expression. -/
def size : Expr → Nat
  | group _ e => e.size + 1
  | seq a b => a.size + b.size + 1
  | alt a b => a.size + b.size + 1
  | rounds _ _ _ e => e.size + 1
  | _ => 1

/-- One of several branches, the first preferred. -/
def alternatives (es : List Expr) : Expr :=
  alternativesWith (es.foldr (fun e n => e.size + n) 1) es

/-- Rounds of an expression.  One that matches the empty text only has at most one round. -/
def repeated (min : Nat) (max : Option Nat) (greedy : Bool) (e : Expr) : Expr :=
  let (min, max) :=
    if e.isAlwaysEmpty then (Nat.min min 1, some ((max.map (Nat.min 1)).getD 1)) else (min, max)
  if min = 0 ∧ max = some 0 then empty
  else if min = 1 ∧ max = some 1 then e
  else rounds min max greedy e

end Expr
end SourceMend.Pattern
