/-!
# Edits

A script turns one list into another.  It is a list of edits, and each edit is a
row of neighbouring elements that are kept, removed or added.  The *old side* of
a script is what it starts from, the *new side* is what it ends with.
-/

namespace SourceMend.Diff

/-- What a script does with a row of elements. -/
inductive Edit (α : Type) where
  /-- The elements stay. -/
  | keep (xs : List α)
  /-- The elements go. -/
  | remove (xs : List α)
  /-- The elements come. -/
  | add (xs : List α)
  deriving DecidableEq, Repr

/-- A list of edits. -/
abbrev Script (α : Type) := List (Edit α)

namespace Edit

variable {α : Type}

/-- The elements that an edit starts from. -/
def old : Edit α → List α
  | keep xs => xs
  | remove xs => xs
  | add _ => []

/-- The elements that an edit ends with. -/
def new : Edit α → List α
  | keep xs => xs
  | remove _ => []
  | add xs => xs

/-- The number of elements of an edit. -/
def size : Edit α → Nat
  | keep xs => xs.length
  | remove xs => xs.length
  | add xs => xs.length

end Edit

namespace Script

variable {α : Type}

/-- The list that a script starts from. -/
def old (s : Script α) : List α := s.flatMap Edit.old

/-- The list that a script ends with. -/
def new (s : Script α) : List α := s.flatMap Edit.new

/-- The number of edits and elements of a script. -/
def size (s : Script α) : Nat := s.foldr (fun e n => e.size + 1 + n) 0

end Script
end SourceMend.Diff
