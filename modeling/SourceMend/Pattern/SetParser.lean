import SourceMend.Pattern.Escape

/-!
# Sets in brackets

A set in brackets lists characters, ranges, shorthands and further sets.  Lists
can be combined by `&&`, `--` and `~~`, which work from left to right and bind
less tightly than listing.  `bracketed` reads one after its opening bracket.

It also gives the depth to which sets are nested: one for the brackets, one for
a list of several items, and one for each combination.
-/

namespace SourceMend.Pattern

/-- How two lists of a set are combined. -/
inductive SetOp where
  /-- What both lists hold. -/
  | common
  /-- What the first list holds and the second does not. -/
  | without
  /-- What only one of the lists holds. -/
  | either
  deriving DecidableEq, Repr

/-- Two sets combined. -/
def SetOp.apply : SetOp → CharSet → CharSet → CharSet
  | common => CharSet.intersection
  | without => CharSet.difference
  | either => CharSet.symmetricDifference

/-- A set with the depth to which it is nested. -/
structure NestedSet where
  /-- The characters. -/
  chars : CharSet
  /-- The depth. -/
  depth : Nat

/-- A set in brackets that is being read. -/
structure OpenSet where
  /-- Whether a caret follows the opening bracket. -/
  negated : Bool
  /-- The characters listed since the last combination. -/
  items : CharSet
  /-- How many items these are. -/
  count : Nat
  /-- The depth of the deepest of them. -/
  depth : Nat
  /-- What comes before the last combination. -/
  pending : Option (SetOp × NestedSet)

namespace OpenSet

/-- A set with one more item. -/
def add (o : OpenSet) (s : NestedSet) : OpenSet :=
  { o with
    items := o.items.union s.chars
    count := o.count + 1
    depth := max o.depth s.depth }

/-- The current list. -/
def list (o : OpenSet) : NestedSet := ⟨o.items, if o.count ≤ 1 then o.depth else o.depth + 1⟩

/-- What has been read so far, combinations included. -/
def value (f : Flags) (o : OpenSet) : Except Error NestedSet :=
  match o.pending with
  | none => .ok o.list
  | some (op, left) => do
    let close (s : CharSet) : CharSet :=
      if !f.ignoreCase then s else if f.unicode then s.closeCase else s.closeAsciiCase
    return ⟨op.apply (close left.chars) (close o.list.chars), max left.depth o.list.depth + 1⟩

/-- The start of the list after a combination sign. -/
def combine (f : Flags) (o : OpenSet) (op : SetOp) : Except Error OpenSet := do
  return ⟨o.negated, .empty, 0, 0, some (op, ← o.value f)⟩

/-- The set when its closing bracket is reached. -/
def close (f : Flags) (o : OpenSet) : Except Error NestedSet := do
  let v ← o.value f
  return ⟨← f.adjust o.negated v.chars, v.depth + 1⟩

end OpenSet

/-! ## Items -/

/-- The ranges of a class of ASCII characters by its name. -/
def asciiClass? (name : String) : Option (List (Nat × Nat)) :=
  match name with
  | "alnum" => some [(0x30, 0x39), (0x41, 0x5A), (0x61, 0x7A)]
  | "alpha" => some [(0x41, 0x5A), (0x61, 0x7A)]
  | "ascii" => some [(0x00, 0x7F)]
  | "blank" => some [(0x09, 0x09), (0x20, 0x20)]
  | "cntrl" => some [(0x00, 0x1F), (0x7F, 0x7F)]
  | "digit" => some [(0x30, 0x39)]
  | "graph" => some [(0x21, 0x7E)]
  | "lower" => some [(0x61, 0x7A)]
  | "print" => some [(0x20, 0x7E)]
  | "punct" => some [(0x21, 0x2F), (0x3A, 0x40), (0x5B, 0x60), (0x7B, 0x7E)]
  | "space" => some [(0x09, 0x0D), (0x20, 0x20)]
  | "upper" => some [(0x41, 0x5A)]
  | "word" => some [(0x30, 0x39), (0x41, 0x5A), (0x5F, 0x5F), (0x61, 0x7A)]
  | "xdigit" => some [(0x30, 0x39), (0x41, 0x46), (0x61, 0x66)]
  | _ => none

/-- A class such as `[:alpha:]` after its opening bracket: whether it is negated, its characters,
and what follows. -/
def namedClass? (s : Text) : Option (Bool × CharSet × Text) :=
  match s with
  | ':' :: r =>
    let (negated, r) :=
      match r with
      | '^' :: r => (true, r)
      | r => (false, r)
    let (name, rest) := r.span (· != ':')
    match rest, asciiClass? (.ofList name) with
    | ':' :: ']' :: rest, some ranges => some (negated, ⟨ranges⟩, rest)
    | _, _ => none
  | _ => none

/-- One character or escape. -/
def setAtom (f : Flags) : Text → Except Error (Atom × Text)
  | [] => .error .unclosedSet
  | '\\' :: r => escape f r
  | c :: r => .ok (.char c false, r)

/-- The character of an atom that has to be one. -/
def Atom.listedChar (f : Flags) : Atom → Except Error Char
  | .char c _ => if f.unicode || c.toNat < 128 then .ok c else .error .asciiOnly
  | _ => .error .range

/-- The characters that an atom adds to a list. -/
def Atom.listed (f : Flags) : Atom → Except Error CharSet
  | .char c b => (Atom.listedChar f (.char c b)).map .single
  | .set s => .ok s
  | .look _ => .error .setItem

/-- A character, shorthand or range of a list. -/
def setItem (f : Flags) (s : Text) : Except Error (CharSet × Text) := do
  let (first, rest) ← setAtom f s
  match f.skipIdle rest with
  | [] => throw .unclosedSet
  | '-' :: r =>
    match f.peek? r with
    | some ']' => return (← first.listed f, '-' :: r)
    | some '-' => return (← first.listed f, '-' :: r)
    | _ =>
      if (f.skipIdle r).isEmpty then throw .unclosedSet
      let (last, rest) ← setAtom f (f.skipIdle r)
      let a ← first.listedChar f
      let b ← last.listedChar f
      if a ≤ b then return (.range a b, rest) else throw .range
  | rest => return (← first.listed f, rest)

/-- Hyphens at the start of a list. -/
def leadingHyphens (f : Flags) (fuel : Nat) (o : OpenSet) (s : Text) : OpenSet × Text :=
  match fuel, s with
  | fuel + 1, '-' :: r => leadingHyphens f fuel (o.add ⟨.single '-', 0⟩) (f.skipIdle r)
  | _, s => (o, s)

/-- The start of a set: the caret, hyphens that stand for themselves, and a closing bracket that
stands for itself if it comes first. -/
def openSet (f : Flags) (s : Text) : OpenSet × Text :=
  let s := f.skipIdle s
  let (negated, s) :=
    match s with
    | '^' :: r => (true, f.skipIdle r)
    | s => (false, s)
  let (o, s) := leadingHyphens f s.length ⟨negated, .empty, 0, 0, none⟩ s
  match s with
  | ']' :: r => if o.count = 0 then (o.add ⟨.single ']', 0⟩, f.skipIdle r) else (o, s)
  | _ => (o, s)

/-- The rest of a set that has been opened, and what follows it.  Every step consumes a character,
so as much fuel as there are characters is enough. -/
def setBody (f : Flags) (fuel : Nat) (o : OpenSet) (s : Text) :
    Except Error (NestedSet × Text) :=
  match fuel, f.skipIdle s with
  | 0, _ => .error .unclosedSet
  | _, [] => .error .unclosedSet
  | _, ']' :: r => do return (← o.close f, r)
  | fuel + 1, '[' :: r =>
    match namedClass? r with
    | some (negated, chars, rest) => do
      setBody f fuel (o.add ⟨← f.adjust negated chars, 0⟩) rest
    | none => do
      let (inner, rest) := openSet f r
      let (set, rest) ← setBody f fuel inner rest
      setBody f fuel (o.add set) rest
  | fuel + 1, '&' :: '&' :: r => do setBody f fuel (← o.combine f .common) r
  | fuel + 1, '-' :: '-' :: r => do setBody f fuel (← o.combine f .without) r
  | fuel + 1, '~' :: '~' :: r => do setBody f fuel (← o.combine f .either) r
  | fuel + 1, s => do
    let (chars, rest) ← setItem f s
    setBody f fuel (o.add ⟨chars, 0⟩) rest

/-- The set in brackets after its opening bracket, and what follows it. -/
def bracketed (f : Flags) (s : Text) : Except Error (NestedSet × Text) :=
  let (o, rest) := openSet f s
  setBody f (rest.length + 1) o rest

end SourceMend.Pattern
