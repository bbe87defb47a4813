import SourceMend.Pattern.Node

/-!
# Matching

Positions are counted from the end: `left` is the number of characters that
follow.  `Node.run` finds the preferred match of a node from a position.  What
comes after the node is given as a function, the *rest*, and a match of the node
counts only if the rest succeeds from where it ends.  So an earlier choice is
given up only when everything after it fails.

Before a text is searched, `Sweep` goes through it once from its end and finds,
for every character that a node can take, the positions where taking it can
still lead to a match.  The search takes no character elsewhere.  It finds the
same matches as without this, since the positions left out lead to none, and its
time grows with the length of the text only.
-/

namespace SourceMend.Pattern

/-! ## States -/

/-- A set of positions: whether `left` is in it stands at index `left`. -/
abbrev Positions := Array Bool

/-- Whether a position is in a set. -/
def Positions.has (ps : Positions) (left : Nat) : Bool := ps.getD left false

/-- A match in progress. -/
structure State where
  /-- The number of characters that follow. -/
  left : Nat
  /-- The places of choice passed since the last character was taken. -/
  passed : List Nat := []
  /-- The groups matched so far, latest first, with the positions of their ends. -/
  groups : List (Nat × Nat × Nat) := []
  deriving DecidableEq, Repr, Inhabited

namespace State

/-- The state after passing a place of choice. -/
def pass (s : State) (place : Nat) : State := { s with passed := place :: s.passed }

/-- The state after taking a character. -/
def advance (s : State) : State := { s with left := s.left - 1, passed := [] }

/-- The state after a group that began at `start` has matched. -/
def keep (s : State) (i start : Nat) : State := { s with groups := (i, start, s.left) :: s.groups }

end State

/-- What comes after a node: how a match goes on from a state. -/
abbrev Rest := State → Option State

/-! ## Runs -/

/-- Rounds of `body` from a state, each of which has to take a character.  Leaving the loop is
preferred to another round unless the loop is greedy. -/
def runLoop (place : Nat) (greedy : Bool) (body : State → Rest → Option State) (rest : Rest)
    (s : State) : Option State :=
  if s.passed.contains place then none
  else
    let s := s.pass place
    let round (_ : Unit) := body s fun s' =>
      if _h : s'.left < s.left then runLoop place greedy body rest s' else none
    if greedy then (round ()).or (rest s) else (rest s).or (round ())
termination_by s.left

/-- One round of `body` from a state and then any number of further rounds.  After a round that
takes no character there is no further one. -/
def runAgain (place : Nat) (greedy : Bool) (body : State → Rest → Option State) (rest : Rest)
    (s : State) : Option State :=
  body s fun s' =>
    if s'.passed.contains place then none
    else
      let t := s'.pass place
      let round (_ : Unit) :=
        if _h : s'.left < s.left then runAgain place greedy body rest t else none
      if greedy then (round ()).or (rest t) else (rest t).or (round ())
termination_by s.left

/-- The preferred match of a node, continued by `rest`. -/
def Node.run : Node Positions Positions → State → Rest → Option State
  | .skip, s, rest => rest s
  | .never, _, _ => none
  | .take ps, s, rest => if 0 < s.left && ps.has s.left then rest s.advance else none
  | .check ps, s, rest => if ps.has s.left then rest s else none
  | .group i n, s, rest => n.run s fun s' => rest (s'.keep i s.left)
  | .seq m n, s, rest => m.run s fun s' => n.run s' rest
  | .fork place m n, s, rest =>
    if s.passed.contains place then none
    else
      let s := s.pass place
      (m.run s rest).or (n.run s rest)
  | .loop place greedy n, s, rest => runLoop place greedy n.run rest s
  | .again place greedy n, s, rest => runAgain place greedy n.run rest s

/-! ## Sweeps -/

/-- What is known, during a sweep, about a place where a node takes a character. -/
structure TakeSweep where
  /-- The characters that can be taken. -/
  set : CharSet
  /-- Whether a match is possible after taking the character before the last position swept. -/
  ahead : Bool
  /-- The positions swept so far from which taking a character can lead to a match. -/
  found : Positions

/-- What is known, during a sweep, about an assertion. -/
structure CheckSweep where
  /-- The assertion. -/
  look : Look
  /-- The positions swept so far where it holds. -/
  found : Positions

/-- A node during a sweep. -/
abbrev Sweep := Node TakeSweep CheckSweep

namespace Sweep

/-- The start of a sweep. -/
def begin (n : Node CharSet Look) : Sweep := n.map (⟨·, false, #[]⟩) (⟨·, #[]⟩)

/-- Whether a match is possible from a position between two characters, if `rest` tells whether
what follows the node can match there. -/
def possible (before after : Option Char) (rest : Bool) : Sweep → Bool
  | .skip => rest
  | .never => false
  | .take t => t.ahead && after.any t.set.contains
  | .check c => rest && c.look.holds before after
  | .group _ n => possible before after rest n
  | .seq m n => possible before after (possible before after rest n) m
  | .fork _ m n => possible before after rest m || possible before after rest n
  | .loop _ _ n => rest || possible before after false n
  | .again _ _ n =>
    possible before after (rest || possible before after false n) n

/-- The sweep after one more position, and whether a match is possible from there. -/
def step (before after : Option Char) (rest : Bool) : Sweep → Sweep × Bool
  | .skip => (.skip, rest)
  | .never => (.never, false)
  | .take t =>
    let here := t.ahead && after.any t.set.contains
    (.take ⟨t.set, rest, t.found.push here⟩, here)
  | .check c =>
    let here := c.look.holds before after
    (.check ⟨c.look, c.found.push here⟩, rest && here)
  | .group i n =>
    let (n, p) := step before after rest n
    (.group i n, p)
  | .seq m n =>
    let (n, p) := step before after rest n
    let (m, p) := step before after p m
    (.seq m n, p)
  | .fork place m n =>
    let (m, p) := step before after rest m
    let (n, q) := step before after rest n
    (.fork place m n, p || q)
  | .loop place greedy n =>
    let p := rest || possible before after false n
    let (n, _) := step before after p n
    (.loop place greedy n, p)
  | .again place greedy n =>
    let p := rest || possible before after false n
    let (n, q) := step before after p n
    (.again place greedy n, q)

/-- The sweep after all positions of a text, given its characters from the last to the first, with
the positions from which a match is possible. -/
def run (after : Option Char) : Text → Sweep × Positions → Sweep × Positions
  | [], (n, starts) =>
    let (n, p) := step none after true n
    (n, starts.push p)
  | c :: r, (n, starts) =>
    let (n, p) := step (some c) after true n
    run (some c) r (n, starts.push p)

end Sweep

/-! ## Searches -/

/-- A pattern fitted to one text. -/
structure Fitted where
  /-- The node, with the positions where its parts fit. -/
  node : Node Positions Positions
  /-- The positions from which there is a match. -/
  starts : Positions

/-- A node fitted to a text. -/
def Fitted.ofNode (n : Node CharSet Look) (s : Text) : Fitted :=
  let (n, starts) := Sweep.run none s.reverse (Sweep.begin n, #[])
  ⟨n.map (·.found) (·.found), starts⟩

namespace Fitted

/-- The first match from the position `left` on: where it starts, and the state at its end. -/
def find? (f : Fitted) : Nat → Option (Nat × State)
  | 0 => if f.starts.has 0 then (f.node.run { left := 0 } some).map fun s => (0, s) else none
  | left + 1 =>
    match
      if f.starts.has (left + 1) then f.node.run { left := left + 1 } some else none
    with
    | some s => some (left + 1, s)
    | none => f.find? left

/-- The matches from the position `left` on, each after the one before it.  If `afterMatch`, a
match ends at `left`, and the empty match there does not count. -/
def findAll (f : Fitted) (left : Nat) (afterMatch : Bool) : List (Nat × State) :=
  match f.find? left with
  | none => []
  | some (start, s) =>
    if _h : s.left < left ∨ (s.left = left ∧ afterMatch = false) then
      (start, s) :: f.findAll s.left true
    else
      match left with
      | 0 => []
      | left + 1 => f.findAll left false
termination_by 2 * left + (if afterMatch then 0 else 1)
decreasing_by
  · rcases _h with h | ⟨h, ha⟩
    · simp only [if_true]
      split <;> omega
    · simp [h, ha]
  · simp only [if_false]
    split <;> omega

end Fitted
end SourceMend.Pattern
