/-!
# Where a shortest script has its middle

Two lists span a grid.  A script is a way through it from one corner to the
other: removing goes along the first list, adding along the second, and keeping
goes along both.  Diagonal `k` holds the points `(x, y)` with `x - y = k`.

`meeting` walks from both corners in rounds.  In round `d` every diagonal from
`d` down to `-d` is entered with one more removal or addition and then followed
as far as the lists agree.  When the two walks meet, the point where the last
stretch of agreement starts lies on a shortest script.
-/

namespace SourceMend.Diff

variable {α : Type} [DecidableEq α]

/-- How far along the first list the walk from one corner has come, by diagonal. -/
structure Frontier where
  /-- The slot of diagonal zero. -/
  middle : Nat
  /-- The slots. -/
  slots : Array Nat

namespace Frontier

/-- A frontier with room for the diagonals from `-room` to `room`. -/
def start (room : Nat) : Frontier := ⟨room, .replicate (2 * room + 1) 0⟩

/-- The place on diagonal `k`. -/
def get (f : Frontier) (k : Int) : Nat := f.slots.getD (f.middle + k).toNat 0

/-- The frontier with the place `x` on diagonal `k`. -/
def set (f : Frontier) (k : Int) (x : Nat) : Frontier :=
  { f with slots := f.slots.setIfInBounds (f.middle + k).toNat x }

/-- Where round `d` enters diagonal `k`: from the neighbour that has come further. -/
def entry (f : Frontier) (d k : Int) : Nat :=
  if k = -d ∨ (k ≠ d ∧ f.get (k - 1) < f.get (k + 1)) then f.get (k + 1) else f.get (k - 1) + 1

end Frontier

/-- The number of elements from `x` and from `y` on that agree, at most `fuel`. -/
def agreement (a b : Array α) (x y : Nat) : (fuel : Nat) → Nat
  | 0 => 0
  | fuel + 1 =>
    if h : x < a.size ∧ y < b.size then
      if a[x] = b[y] then agreement a b (x + 1) (y + 1) fuel + 1 else 0
    else 0

/-- The diagonals of round `d` in the order in which they are followed. -/
def diagonals (d : Nat) : List Int :=
  (List.range (d + 1)).map fun (i : Nat) => (d : Int) - 2 * i

/-- What a round comes to: the ends of the stretch on which the walks meet, or how far every
diagonal has been followed. -/
inductive Round where
  /-- The stretch from `(x₀, y₀)` to `(x, y)` reaches the other walk. -/
  | met (x₀ y₀ x y : Nat)
  /-- The walks have not met. -/
  | open (f : Frontier)

/-- One round over some diagonals.  `reaches k x` tells whether the place `x` on diagonal `k`
touches the other walk. -/
def round (a b : Array α) (d : Nat) (reaches : Int → Nat → Bool) (f : Frontier) :
    List Int → Round
  | [] => .open f
  | k :: ks =>
    let x₀ := f.entry d k
    let y₀ := ((x₀ : Int) - k).toNat
    let n := agreement a b x₀ y₀ a.size
    if reaches k (x₀ + n) then .met x₀ y₀ (x₀ + n) (y₀ + n)
    else round a b d reaches (f.set k (x₀ + n)) ks

/-- The rounds from `d` on, each from the front and then from the back. -/
def rounds (a b ra rb : Array α) (d : Nat) (forth back : Frontier) :
    (fuel : Nat) → Option (Nat × Nat)
  | 0 => none
  | fuel + 1 =>
    let delta : Int := (a.size : Int) - b.size
    let odd := delta % 2 != 0
    let touchesBack (k : Int) (x : Nat) : Bool :=
      odd && (k - delta).natAbs + 1 ≤ d && a.size ≤ x + back.get (delta - k)
    match round a b d touchesBack forth (diagonals d) with
    | .met x₀ y₀ _ _ => some (x₀, y₀)
    | .open forth =>
      let touchesForth (k : Int) (x : Nat) : Bool :=
        !odd && (k - delta).natAbs ≤ d && a.size ≤ x + forth.get (delta - k)
      match round ra rb d touchesForth back (diagonals d) with
      | .met _ _ x y => some (a.size - x, b.size - y)
      | .open back => rounds a b ra rb (d + 1) forth back fuel

/-- A point on a shortest script from one list to another. -/
def meeting (a b : List α) : Option (Nat × Nat) :=
  let most := (a.length + b.length + 1) / 2 + 1
  let f := Frontier.start (most + 1)
  rounds a.toArray b.toArray a.reverse.toArray b.reverse.toArray 0 f f most

end SourceMend.Diff
