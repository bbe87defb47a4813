import SourceMend.Pattern.Expr

/-!
# Expressions ready for matching

A node is an expression in which counted repetitions are written out and every
place where a match has a choice bears a number of its own.  The numbers stop a
match from going round in a circle: a match passes no place of choice twice
without taking a character in between.

What a node takes and what it asserts are parameters.  In a compiled pattern
they are sets of characters and assertions.  For one text they are the
positions where that set or assertion fits.
-/

namespace SourceMend.Pattern

/-- An expression ready for matching, which takes `α` and asserts `β`. -/
inductive Node (α β : Type) where
  /-- Matches the empty text. -/
  | skip
  /-- Matches nothing. -/
  | never
  /-- Takes one character. -/
  | take (a : α)
  /-- Asserts something. -/
  | check (b : β)
  /-- Keeps the place of a match as group `i`. -/
  | group (i : Nat) (n : Node α β)
  /-- One node after another. -/
  | seq (m n : Node α β)
  /-- The first node, or else the second. -/
  | fork (place : Nat) (m n : Node α β)
  /-- Any number of rounds of a node that takes characters. -/
  | loop (place : Nat) (greedy : Bool) (n : Node α β)
  /-- At least one round of a node. -/
  | again (place : Nat) (greedy : Bool) (n : Node α β)
  deriving DecidableEq, Repr

namespace Node

/-- A node with what it takes and asserts replaced. -/
def map {α β γ δ : Type} (f : α → γ) (g : β → δ) : Node α β → Node γ δ
  | skip => skip
  | never => never
  | take a => take (f a)
  | check b => check (g b)
  | group i n => group i (n.map f g)
  | seq m n => seq (m.map f g) (n.map f g)
  | fork p m n => fork p (m.map f g) (n.map f g)
  | loop p greedy n => loop p greedy (n.map f g)
  | again p greedy n => again p greedy (n.map f g)

/-- A node that is preferred to leaving it out if `greedy`, else the reverse. -/
def optional {α β : Type} (place : Nat) (greedy : Bool) (n : Node α β) : Node α β :=
  if greedy then fork place n skip else fork place skip n

end Node

/-- What builds a node from the next free number and gives the next free number after it. -/
abbrev Numbered := Nat → Node CharSet Look × Nat

namespace Numbered

/-- One node after another. -/
def seq (a b : Numbered) : Numbered := fun i =>
  let (m, i) := a i
  let (n, i) := b i
  (.seq m n, i)

/-- `count` copies of a node. -/
def copies (a : Numbered) : Nat → Numbered
  | 0 => fun i => (.skip, i)
  | 1 => a
  | count + 1 => seq a (copies a count)

/-- At most `count` copies of a node. -/
def upTo (greedy : Bool) (a : Numbered) : Nat → Numbered
  | 0 => fun i => (.skip, i)
  | count + 1 => fun i =>
    let (n, j) := seq a (upTo greedy a count) (i + 1)
    (.optional i greedy n, j)

/-- At least one round of a node. -/
def again (greedy : Bool) (a : Numbered) : Numbered := fun i =>
  let (n, j) := a (i + 1)
  (.again i greedy n, j)

/-- Any number of rounds of a node.  If a round may take no character, this is at least one round
that may be left out. -/
def anyNumber (consumes greedy : Bool) (a : Numbered) : Numbered := fun i =>
  if consumes then
    let (n, j) := a (i + 1)
    (.loop i greedy n, j)
  else
    let (n, j) := again greedy a (i + 1)
    (.optional i greedy n, j)

/-- The rounds of a repetition. -/
def rounds (min : Nat) (max : Option Nat) (consumes greedy : Bool) (a : Numbered) : Numbered :=
  match min, max with
  | 0, none => anyNumber consumes greedy a
  | min + 1, none =>
    if min = 0 then again greedy a else seq (copies a min) (again greedy a)
  | 0, some max => upTo greedy a max
  | min + 1, some max =>
    if max = min + 1 then copies a max
    else seq (copies a (min + 1)) (upTo greedy a (max - (min + 1)))

end Numbered

/-- The characters of a literal one after another. -/
def literalNode : List Char → Node CharSet Look
  | [] => .skip
  | [c] => .take (.single c)
  | c :: d :: r => .seq (.take (.single c)) (literalNode (d :: r))

/-- The node of an expression. -/
def Expr.numbered : Expr → Numbered
  | .empty => fun i => (.skip, i)
  | .never => fun i => (.never, i)
  | .literal cs => fun i => (literalNode cs, i)
  | .set s => fun i => (.take s, i)
  | .look l => fun i => (.check l, i)
  | .group g e => fun i =>
    let (n, j) := e.numbered i
    (.group g n, j)
  | .seq a b => a.numbered.seq b.numbered
  | .alt a b => fun i =>
    let (m, j) := a.numbered (i + 1)
    let (n, j) := b.numbered j
    (.fork i m n, j)
  | .rounds min max greedy e => e.numbered.rounds min max e.consumes greedy

/-- The node of an expression. -/
def Expr.node (e : Expr) : Node CharSet Look := (e.numbered 0).1

end SourceMend.Pattern
