import SourceMend.Pattern.SetParser

/-!
# Reading patterns

`Parsed.ofText?` reads the text of a pattern.  A pattern is a list of branches,
a branch is a list of items, and an item is a character, a set, an assertion or
a group, perhaps with a repetition.  Flags that stand alone in parentheses hold
for the rest of the group that they stand in.

Every step consumes a character, which bounds the recursion.  What is read also
says how deeply it is nested, and patterns nested more deeply than `depthLimit`
are refused.
-/

namespace SourceMend.Pattern

/-! ## State -/

/-- An item that has been read. -/
structure Piece where
  /-- What it means. -/
  expr : Expr
  /-- How deeply it is nested. -/
  depth : Nat
  /-- Whether it sets flags and cannot be repeated. -/
  isFlags : Bool := false

/-- What is still to be read, and the groups so far. -/
structure Cursor where
  /-- The rest of the pattern. -/
  rest : Text
  /-- The number of groups that have been opened. -/
  groups : Nat := 0
  /-- The named groups with their numbers. -/
  names : List (String × Nat) := []

/-- The branches of the group that is being read. -/
structure Level where
  /-- The flags in force. -/
  flags : Flags
  /-- The items of the current branch, last first. -/
  items : List Piece := []
  /-- The branches before it, last first. -/
  branches : List Piece := []

namespace Level

/-- The greatest depth of some pieces. -/
def deepest (ps : List Piece) : Nat := ps.foldl (fun d p => max d p.depth) 0

/-- A level with one more item. -/
def push (l : Level) (p : Piece) : Level := { l with items := p :: l.items }

/-- The current branch. -/
def branch (l : Level) : Piece :=
  match l.items.reverse with
  | [] => ⟨.empty, 0, false⟩
  | [p] => p
  | ps => ⟨.sequence (ps.map (·.expr)), deepest ps + 1, false⟩

/-- A level at the start of another branch. -/
def split (l : Level) : Level := { l with items := [], branches := l.branch :: l.branches }

/-- All branches. -/
def whole (l : Level) : Piece :=
  match l.branches with
  | [] => l.branch
  | bs =>
    let ps := (l.branch :: bs).reverse
    ⟨.alternatives (ps.map (·.expr)), deepest ps + 1, false⟩

end Level

/-! ## Characters and repetitions -/

/-- What a character means. -/
def charExpr (f : Flags) (c : Char) : Expr :=
  if !f.ignoreCase then .literal [c]
  else if f.unicode then .ofSet (CharSet.single c).closeCase
  else if c.toNat < 128 then .ofSet (CharSet.single c).closeAsciiCase
  else .literal [c]

/-- What a smallest part means. -/
def Atom.expr (f : Flags) : Atom → Except Error Expr
  | .char c asByte =>
    if !f.unicode && asByte && 128 ≤ c.toNat then .error .asciiOnly else .ok (charExpr f c)
  | .set s => .ok (.ofSet s)
  | .look l => .ok (.look l)

/-- A level with its last item repeated. -/
def Level.repeatLast (l : Level) (min : Nat) (max : Option Nat) (greedy : Bool) :
    Except Error Level :=
  match l.items with
  | p :: ps =>
    if p.isFlags then .error .nothingToRepeat
    else
      let e := Expr.repeated min max (greedy != l.flags.swapGreed) p.expr
      .ok { l with items := ⟨e, p.depth + 1, false⟩ :: ps }
  | [] => .error .nothingToRepeat

/-- Whether a question mark follows, which makes a repetition not greedy. -/
def takeGreed : Text → Bool × Text
  | '?' :: r => (false, r)
  | s => (true, s)

/-- The digits at the start of a text, idle characters between them left out. -/
def takeDigits (f : Flags) (fuel : Nat) (s : Text) : Text × Text :=
  match fuel, s with
  | fuel + 1, c :: r =>
    if c.isDigit then
      let (ds, rest) := takeDigits f fuel (f.skipIdle r)
      (c :: ds, rest)
    else ([], c :: r)
  | _, s => ([], s)

/-- A bound of a repetition with blanks around it: nothing if there are no digits. -/
def bound (f : Flags) (s : Text) : Except Error (Option Nat × Text) :=
  let (ds, rest) := takeDigits f s.length (s.dropWhile Text.isBlank)
  let rest := f.skipIdle (rest.dropWhile Text.isBlank)
  if ds.isEmpty then .ok (none, rest)
  else
    match Text.bounded Text.word32 ds with
    | some n => .ok (some n, rest)
    | none => .error .repetition

/-- The bounds of a repetition after its opening brace, up to the closing one. -/
def bounds (f : Flags) (s : Text) : Except Error (Nat × Option Nat × Text) := do
  let (low, rest) ← bound f (f.skipIdle s)
  match low, rest with
  | some n, '\x7d' :: r => return (n, some n, r)
  | some n, ',' :: r =>
    match f.skipIdle r with
    | '\x7d' :: r => return (n, none, r)
    | r =>
      match ← bound f r with
      | (some m, '\x7d' :: r) => if n ≤ m then return (n, some m, r) else throw .repetition
      | _ => throw .repetition
  | _, _ => throw .repetition

/-! ## Groups -/

/-- Whether a character can stand in the name of a group, or at its start. -/
def isNameChar (first : Bool) (c : Char) : Bool :=
  if first then c == '_' || Unicode.alphabetic.contains c
  else ['_', '.', '[', ']'].contains c || Unicode.alphanumeric.contains c

/-- The name of a group, up to the closing angle bracket. -/
def groupName (s : Text) : Except Error (String × Text) :=
  match s.span (· != '>') with
  | (c :: name, '>' :: rest) =>
    if isNameChar true c && name.all (isNameChar false) then .ok (.ofList (c :: name), rest)
    else .error .groupName
  | _ => .error .groupName

/-- Flags up to a colon or a closing parenthesis, which stays.  `seen` are the letters so far and
`on` tells whether they are switched on. -/
def takeFlags (f : Flags) (seen : List Char) (on : Bool) : Text → Except Error (Flags × Text)
  | [] => .error .flags
  | c :: r =>
    if c = ':' ∨ c = ')' then
      if seen.head? = some '-' then .error .flags else .ok (f, c :: r)
    else if seen.contains c then .error .flags
    else if c = '-' then takeFlags f ('-' :: seen) false r
    else
      match f.switch? c on with
      | some f => takeFlags f (c :: seen) on r
      | none => .error .flags

/-- What an opening parenthesis begins. -/
inductive Opening where
  /-- Flags for the rest of the enclosing group. -/
  | flags (f : Flags)
  /-- A group without a number, with its flags. -/
  | plain (f : Flags)
  /-- A group with a number. -/
  | numbered (i : Nat)

/-- What an opening parenthesis begins, and the state after that. -/
def opening (f : Flags) (c : Cursor) : Except Error (Opening × Cursor) := do
  let numbered := c.groups + 1
  let named (s : Text) : Except Error (Opening × Cursor) := do
    let (name, rest) ← groupName s
    if (c.names.lookup name).isSome then throw (.duplicateName name)
    return (.numbered numbered, ⟨rest, numbered, (name, numbered) :: c.names⟩)
  match f.skipIdle c.rest with
  | '?' :: '=' :: _ => throw .lookAround
  | '?' :: '!' :: _ => throw .lookAround
  | '?' :: '<' :: '=' :: _ => throw .lookAround
  | '?' :: '<' :: '!' :: _ => throw .lookAround
  | '?' :: 'P' :: '<' :: r => named r
  | '?' :: '<' :: r => named r
  | '?' :: ')' :: _ => throw .nothingToRepeat
  | '?' :: r =>
    match ← takeFlags f [] true r with
    | (f, ')' :: rest) => return (.flags f, { c with rest })
    | (f, rest) => return (.plain f, { c with rest := rest.drop 1 })
  | rest => return (.numbered numbered, { c with rest, groups := numbered })

/-! ## Patterns -/

/-- The branches up to the end of the group, or of the pattern if `depth` is zero, and the state
after that. -/
def parseLevel (fuel : Nat) (inGroup : Bool) (l : Level) (c : Cursor) :
    Except Error (Piece × Cursor) :=
  match fuel with
  | 0 => .error .tooLarge
  | fuel + 1 =>
    let past (rest : Text) : Cursor := { c with rest }
    match l.flags.skipIdle c.rest with
    | [] => if inGroup then .error .unclosedGroup else .ok (l.whole, past [])
    | ch :: r =>
      match ch with
      | ')' => if inGroup then .ok (l.whole, past r) else .error .unopenedGroup
      | '|' => parseLevel fuel inGroup l.split (past r)
      | '(' => do
        match ← opening l.flags (past r) with
        | (.flags f, c) =>
          parseLevel fuel inGroup { l.push ⟨.empty, 0, true⟩ with flags := f } c
        | (.plain f, c) =>
          let (inner, c) ← parseLevel fuel true { flags := f } c
          parseLevel fuel inGroup (l.push ⟨inner.expr, inner.depth + 1, false⟩) c
        | (.numbered i, c) =>
          let (inner, c) ← parseLevel fuel true { flags := l.flags } c
          parseLevel fuel inGroup (l.push ⟨.group i inner.expr, inner.depth + 1, false⟩) c
      | '*' => do
        let (greedy, r) := takeGreed r
        parseLevel fuel inGroup (← l.repeatLast 0 none greedy) (past r)
      | '+' => do
        let (greedy, r) := takeGreed r
        parseLevel fuel inGroup (← l.repeatLast 1 none greedy) (past r)
      | '?' => do
        let (greedy, r) := takeGreed r
        parseLevel fuel inGroup (← l.repeatLast 0 (some 1) greedy) (past r)
      | '\x7b' => do
        if l.items.isEmpty then throw .nothingToRepeat
        let (min, max, r) ← bounds l.flags r
        let (greedy, r) := takeGreed (l.flags.skipIdle r)
        parseLevel fuel inGroup (← l.repeatLast min max greedy) (past r)
      | '[' => do
        let (set, r) ← bracketed l.flags r
        parseLevel fuel inGroup (l.push ⟨.ofSet set.chars, set.depth, false⟩) (past r)
      | '.' => do
        parseLevel fuel inGroup (l.push ⟨.ofSet (← l.flags.dot), 0, false⟩) (past r)
      | '^' => parseLevel fuel inGroup (l.push ⟨.look l.flags.startLook, 0, false⟩) (past r)
      | '$' => parseLevel fuel inGroup (l.push ⟨.look l.flags.endLook, 0, false⟩) (past r)
      | '\\' => do
        let (a, r) ← escape l.flags r
        parseLevel fuel inGroup (l.push ⟨← a.expr l.flags, 0, false⟩) (past r)
      | ch => parseLevel fuel inGroup (l.push ⟨charExpr l.flags ch, 0, false⟩) (past r)

/-- How deeply a pattern may be nested. -/
def depthLimit : Nat := 250

/-- What the text of a pattern means. -/
structure Parsed where
  /-- The expression. -/
  expr : Expr
  /-- The named groups with their numbers. -/
  names : List (String × Nat)
  deriving DecidableEq, Repr

/-- The meaning of the text of a pattern. -/
def Parsed.ofText? (s : Text) : Except Error Parsed := do
  let (p, c) ← parseLevel (s.length + 1) false { flags := {} } { rest := s }
  if depthLimit < p.depth then throw .tooDeep
  return ⟨p.expr, c.names⟩

end SourceMend.Pattern
