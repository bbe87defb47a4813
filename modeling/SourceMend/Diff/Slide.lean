import SourceMend.Diff.Script

/-!
# Sliding edits together

Where kept elements repeat, an addition can often move over them without a
change of what the script does.  `Script.settle` moves every removal and every
addition up as far as it goes and then down as far as it goes.  On its way an
edit trades places with edits of the other kind and unites with those of its
own, so a script falls apart into fewer stretches.
-/

namespace SourceMend.Diff

variable {α : Type} [DecidableEq α]

/-- An edit among others, with those before it nearest first. -/
structure Cursor (α : Type) where
  /-- The edits before, the nearest first. -/
  before : Script α
  /-- The edit itself. -/
  edit : Edit α
  /-- The edits after. -/
  after : Script α

namespace Cursor

/-- The script that a cursor stands in. -/
def script (c : Cursor α) : Script α := c.before.reverse ++ c.edit :: c.after

/-- Kept elements put in front of a script. -/
def keepBefore (xs : List α) : Script α → Script α
  | .keep ys :: r => .keep (xs ++ ys) :: r
  | r => .keep xs :: r

/-- Kept elements put behind a reversed script. -/
def keepBehind (xs : List α) : Script α → Script α
  | .keep ys :: r => .keep (ys ++ xs) :: r
  | r => .keep xs :: r

/-- The edit moved up by one edit or over some kept elements, if it can move. -/
def up? (c : Cursor α) : Option (Cursor α) :=
  match c.before, c.edit with
  | .keep ks :: before, .add xs =>
    let (rest, added, shared) := commonEnd ks xs
    if shared.isEmpty then none
    else
      some ⟨Script.keeping rest ++ before, .add (shared ++ added), keepBefore shared c.after⟩
  | .remove ys :: before, .add xs => some ⟨before, .add xs, .remove ys :: c.after⟩
  | .add ys :: before, .remove xs => some ⟨before, .remove xs, .add ys :: c.after⟩
  | .add ys :: before, .add xs => some ⟨before, .add (ys ++ xs), c.after⟩
  | .remove ys :: before, .remove xs => some ⟨before, .remove (ys ++ xs), c.after⟩
  | _, _ => none

/-- The edit moved down by one edit or over some kept elements, if it can move. -/
def down? (c : Cursor α) : Option (Cursor α) :=
  match c.edit, c.after with
  | .add xs, .keep ks :: after =>
    let (shared, rest, added) := commonStart ks xs
    if shared.isEmpty then none
    else
      some ⟨keepBehind shared c.before, .add (added ++ shared), Script.keeping rest ++ after⟩
  | .add xs, .remove ys :: after => some ⟨.remove ys :: c.before, .add xs, after⟩
  | .remove xs, .add ys :: after => some ⟨.add ys :: c.before, .remove xs, after⟩
  | .add xs, .add ys :: after => some ⟨c.before, .add (xs ++ ys), after⟩
  | .remove xs, .remove ys :: after => some ⟨c.before, .remove (xs ++ ys), after⟩
  | _, _ => none

/-- The edit moved by `move?` as often as that goes.  Every move passes an edit or an element, so
their number is fuel enough. -/
def exhaust (move? : Cursor α → Option (Cursor α)) : (fuel : Nat) → Cursor α → Cursor α
  | 0, c => c
  | fuel + 1, c =>
    match move? c with
    | some d => exhaust move? fuel d
    | none => c

/-- The edit moved up and then down as far as it goes. -/
def settle (c : Cursor α) : Cursor α :=
  let fuel := c.script.size
  exhaust down? fuel (exhaust up? fuel c)

end Cursor

namespace Script

/-- The edits after those in `before` that `moves` selects, settled one after another. -/
def settleWhere (moves : Edit α → Bool) : (fuel : Nat) → (before after : Script α) → Script α
  | 0, before, after => before.reverse ++ after
  | _, before, [] => before.reverse
  | fuel + 1, before, e :: after =>
    if moves e then
      let c := Cursor.settle ⟨before, e, after⟩
      settleWhere moves fuel (c.edit :: c.before) c.after
    else settleWhere moves fuel (e :: before) after

/-- Whether an edit removes. -/
def removes : Edit α → Bool
  | .remove _ => true
  | _ => false

/-- Whether an edit adds. -/
def adds : Edit α → Bool
  | .add _ => true
  | _ => false

/-- A script with all removals and then all additions settled. -/
def settle (s : Script α) : Script α :=
  let once (moves : Edit α → Bool) (s : Script α) := settleWhere moves (s.size + 1) [] s
  once adds (once removes s)

end Script
end SourceMend.Diff
