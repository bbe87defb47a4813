import SourceMend.Text.Cut
import SourceMend.Text.Raw

/-!
# Paths

A path is kept exactly as it was written, byte by byte.  Its *components* forget what does
not matter for finding a file: repeated separators, a separator at the end, and
every `.` that is not the first component.  A `..` is kept, since what it means
depends on the directories.  Two paths with equal components are *alike*.

`join` puts one path under another, and an absolute one replaces it.  `parent?`
and `withFileName` cut a path before its last component, and keep the rest of
the text.
-/

namespace SourceMend

/-- A path, as written. -/
@[ext]
structure Path where
  /-- The text of the path. -/
  text : RawText
  deriving DecidableEq, Repr, Inhabited

namespace Path

open RawText (slash dot)

/-- The path as it is shown to people. -/
def display (p : Path) : String := p.text.lossy

/-! ## Components -/

/-- One component of a path. -/
inductive Component where
  /-- The root directory of an absolute path. -/
  | root
  /-- A `.` at the start of a path. -/
  | here
  /-- A `..`. -/
  | up
  /-- A file or directory name. -/
  | name (n : RawText)
  deriving DecidableEq, Repr

namespace Component

/-- The text of a component. -/
def text : Component → RawText
  | root => ⟨[slash]⟩
  | here => ⟨[dot]⟩
  | up => ⟨[dot, dot]⟩
  | name n => n

/-- The rank of the kinds of components: root, here, up, names. -/
def rank : Component → Nat
  | root => 0
  | here => 1
  | up => 2
  | name _ => 3

/-- Components compare by kind, and names by their bytes. -/
def compare : Component → Component → Ordering
  | name a, name b => Ord.compare a b
  | a, b => Ord.compare a.rank b.rank

end Component

/-- A piece between separators that stands for no component. -/
def isIdle (piece : List UInt8) : Bool := piece == [] || piece == [dot]

/-- The component of a piece that is not idle. -/
def ofPiece (piece : List UInt8) : Component :=
  if piece = [dot, dot] then .up else .name ⟨piece⟩

/-- A path split into what it starts with, a root or a `.`, and the pieces after that. -/
def split (p : Path) : List UInt8 × List (List UInt8) :=
  match p.text.bytes with
  | [] => ([], [[]])
  | b :: r =>
    if b = slash then ([slash], Text.pieces slash r)
    else if b = dot ∧ r = [] then ([dot], [])
    else if b = dot ∧ r.head? = some slash then ([dot], Text.pieces slash r)
    else ([], Text.pieces slash (b :: r))

/-- The component that a path starts with, if it is a root or a `.`. -/
def headComponent : List UInt8 → List Component
  | [] => []
  | b :: _ => if b = slash then [.root] else [.here]

/-- The components of a path. -/
def components (p : Path) : List Component :=
  let (head, ps) := p.split
  headComponent head ++ (ps.filter (!isIdle ·)).map ofPiece

/-- Two paths are alike when their components are equal. -/
def Alike (p q : Path) : Prop := p.components = q.components

/-- Component lists compare from the front, and a proper start comes first. -/
def compareComponents : List Component → List Component → Ordering
  | [], [] => .eq
  | [], _ :: _ => .lt
  | _ :: _, [] => .gt
  | a :: as, b :: bs => (a.compare b).then (compareComponents as bs)

/-- The order of paths, by components. -/
def compare (p q : Path) : Ordering := compareComponents p.components q.components

/-- Whether a path does not come after another. -/
def le (p q : Path) : Bool := p.compare q != .gt

/-- A path is absolute when it starts at the root. -/
def isAbsolute (p : Path) : Bool := p.text.bytes.head? == some slash

/-! ## Putting paths together -/

/-- The path `q` read from the directory `p`. -/
def join (p q : Path) : Path :=
  if q.isAbsolute then q
  else if p.text.bytes.isEmpty || p.text.bytes.getLast? == some slash then ⟨p.text ++ q.text⟩
  else ⟨⟨p.text.bytes ++ slash :: q.text.bytes⟩⟩

/-- The path `p` followed by the file name `n`. -/
def child (p : Path) (n : RawText) : Path := p.join ⟨n⟩

/-- A path with text added at its end. -/
def extend (p : Path) (s : RawText) : Path := ⟨p.text ++ s⟩

/-- The path made of some components. -/
def ofComponents (cs : List Component) : Path :=
  cs.foldl (fun p c => p.join ⟨c.text⟩) ⟨.empty⟩

/-! ## Taking paths apart -/

/-- The pieces of a path in reverse, from the last that is not idle. -/
def reversedPieces (p : Path) : List (List UInt8) := p.split.2.reverse.dropWhile isIdle

/-- The name at the end of a path.  There is none after a root, a `.` or a `..`. -/
def fileName? (p : Path) : Option RawText :=
  match p.reversedPieces with
  | last :: _ => if last = [dot, dot] then none else some ⟨last⟩
  | [] => none

/-- The path without its last component.  The root and the empty path have no parent. -/
def parent? (p : Path) : Option Path :=
  match p.reversedPieces with
  | _ :: before => some ⟨⟨p.split.1 ++ Text.join [slash] (before.dropWhile isIdle).reverse⟩⟩
  | [] => if p.split.1 = [dot] then some ⟨.empty⟩ else none

/-- The path with its name replaced, or added if it has none. -/
def withFileName (p : Path) (n : RawText) : Path :=
  match p.fileName? with
  | some _ => (p.parent?.getD p).child n
  | none => p.child n

/-- The part of a name after its last dot, if the dot is not the first byte. -/
def extensionOf (name : RawText) : Option RawText :=
  if name.bytes = [dot, dot] then none
  else
    match Text.cutLast dot name.bytes with
    | some (_ :: _, ext) => some ⟨ext⟩
    | _ => none

/-- The extension of the name at the end of a path. -/
def extension? (p : Path) : Option RawText := p.fileName?.bind extensionOf

/-- The components of a path after those of another that it starts with. -/
def componentsAfter? : List Component → List Component → Option (List Component)
  | cs, [] => some cs
  | [], _ :: _ => none
  | c :: cs, b :: bs => if c = b then componentsAfter? cs bs else none

/-- The path as seen from `base`, if it starts with the components of `base`. -/
def stripPrefix? (p base : Path) : Option Path :=
  (componentsAfter? p.components base.components).map ofComponents

end Path
end SourceMend
