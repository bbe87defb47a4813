/-!
# TOML values

A document is a table of values.  A table remembers how it was introduced, since
that decides what may be added to it later.  `enter` leads to the table under a
header and `assign` adds a value under a dotted key.  Both refuse to give a key a
second value, and to reopen what was closed.
-/

namespace SourceMend

/-- How a table was introduced. -/
inductive Toml.Kind where
  /-- By a header of its own. -/
  | header
  /-- By a longer header. -/
  | implied
  /-- By a dotted key. -/
  | dotted
  /-- Between braces, which closes it. -/
  | inline
  deriving DecidableEq, Repr

/-- A TOML value. -/
inductive Toml where
  /-- A text. -/
  | text (s : String)
  /-- A whole number. -/
  | int (n : Int)
  /-- A number with a fraction or an exponent, as written. -/
  | float (written : String)
  /-- A truth value. -/
  | bool (b : Bool)
  /-- A date or a time, as written. -/
  | time (written : String)
  /-- A list between brackets. -/
  | list (items : List Toml)
  /-- A table. -/
  | table (kind : Toml.Kind) (fields : List (String × Toml))
  /-- A list of tables with a header each, the last first. -/
  | tables (rows : List (List (String × Toml)))
  deriving Inhabited

namespace Toml

/-- The keys of a table with their values. -/
abbrev Fields := List (String × Toml)

namespace Fields

/-- The fields with a new value under a key that they have. -/
def set (fs : Fields) (k : String) (v : Toml) : Fields :=
  fs.map fun f => if f.1 = k then (k, v) else f

/-- What is said of a key that cannot take a value. -/
def duplicate (k : String) : String := "duplicate key " ++ k

/-- What is said of a key whose value cannot be added to. -/
def closed (k : String) : String := "the value of " ++ k ++ " cannot be extended"

/-- The fields with `f` applied to the table under the keys of a header. -/
def enter (f : Fields → Except String Fields) : List String → Fields → Except String Fields
  | [], fs => f fs
  | k :: ks, fs =>
    match fs.lookup k with
    | none => do
      let inner ← enter f ks []
      return fs ++ [(k, .table .implied inner)]
    | some (.table .inline _) => .error (closed k)
    | some (.table kind inner) => do
      let inner ← enter f ks inner
      return set fs k (.table kind inner)
    | some (.tables (row :: rows)) => do
      let row ← enter f ks row
      return set fs k (.tables (row :: rows))
    | some _ => .error (closed k)

/-- The fields with the table `k` opened by a header. -/
def openTable (k : String) (fs : Fields) : Except String Fields :=
  match fs.lookup k with
  | none => .ok (fs ++ [(k, .table .header [])])
  | some (.table .implied inner) => .ok (set fs k (.table .header inner))
  | some _ => .error (duplicate k)

/-- The fields with one more row opened in the list of tables `k`. -/
def openRow (k : String) (fs : Fields) : Except String Fields :=
  match fs.lookup k with
  | none => .ok (fs ++ [(k, .tables [[]])])
  | some (.tables rows) => .ok (set fs k (.tables ([] :: rows)))
  | some _ => .error (duplicate k)

/-- The fields with a value under a new key. -/
def insert (k : String) (v : Toml) (fs : Fields) : Except String Fields :=
  match fs.lookup k with
  | none => .ok (fs ++ [(k, v)])
  | some _ => .error (duplicate k)

/-- The fields with a value under the last of some keys, in tables under the others.  The table
that takes the value has to be `kind`. -/
def assignIn (v : Toml) (kind : Kind) : List String → Fields → Except String Fields
  | [], fs => .ok fs
  | [k], fs => if kind = .dotted then insert k v fs else .error (duplicate k)
  | k :: ks, fs =>
    match fs.lookup k with
    | none => do
      let inner ← assignIn v .dotted ks []
      return fs ++ [(k, .table .dotted inner)]
    | some (.table .header _) => .error (duplicate k)
    | some (.table .inline _) => .error (closed k)
    | some (.table kind inner) => do
      let inner ← assignIn v kind ks inner
      return set fs k (.table kind inner)
    | some (.tables (row :: rows)) => do
      let row ← assignIn v .header ks row
      return set fs k (.tables (row :: rows))
    | some _ => .error (closed k)

/-- The fields with a value under a dotted key. -/
def assign (v : Toml) (keys : List String) (fs : Fields) : Except String Fields :=
  assignIn v .dotted keys fs

end Fields
end Toml
end SourceMend
