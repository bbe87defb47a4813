import SourceMend.Tree

/-!
# Candidate files

`discover` lists the files below a directory that have one of some extensions,
in ascending order of their paths.  A directory with an excluded name is not
entered.  The name of the starting directory does not count, and neither does
the name of a file.  A starting path that is a file is the only candidate.
-/

namespace SourceMend

/-- The extensions of candidates, unless others are given. -/
def defaultExtensions : List String := ["ts", "tsx"]

/-- The names of directories that are not entered, unless others are given. -/
def defaultExcluded : List String := ["node_modules", "vendor", "dist", "build", ".git", "coverage"]

namespace Path

/-- An extension as it is compared: without dots at the start, and in small letters as far as
ASCII goes. -/
def plainExtension (wanted : String) : String :=
  (String.ofList (wanted.toList.dropWhile (· == '.'))).map Char.toLower

/-- Whether a path has one of some extensions. -/
def hasExtension (p : Path) (extensions : List String) : Bool :=
  match p.extension? with
  | some e => extensions.any fun w => plainExtension w == e.lossy.map Char.toLower
  | none => false

end Path

namespace Tree

/-- The largest number of names that lead to anything. -/
def depth (t : Tree) : Nat := (t.entries.map (·.1.length)).foldr max 0

/-- The files that the name `n` in the directory `l` leads to, as seen from `l`: a file leads to
itself, and a directory to what `within` finds in it, unless it is excluded. -/
def filesUnder (t : Tree) (excluded : List String) (within : Location → List Location)
    (l : Location) (n : RawText) : List Location :=
  match t.get? (l ++ [n]) with
  | some (.file _) => [[n]]
  | some .directory => if excluded.contains n.lossy then [] else (within (l ++ [n])).map (n :: ·)
  | none => []

/-- The files at most `levels` names below the directory `l`, as seen from it. -/
def filesWithin (t : Tree) (excluded : List String) : Nat → Location → List Location
  | 0, _ => []
  | levels + 1, l => (t.names l).flatMap (t.filesUnder excluded (t.filesWithin excluded levels) l)

/-- The files below a directory as seen from it, excluded directories not entered. -/
def filesBelow (t : Tree) (l : Location) (excluded : List String) : List Location :=
  t.filesWithin excluded t.depth l

/-- The candidates of a run, ascending. -/
def discover (t : Tree) (root : Path) (extensions excluded : List String) : List Path :=
  match t.locate root with
  | .error _ => []
  | .ok l =>
    match t.get? l with
    | some (.file _) => if root.hasExtension extensions then [root] else []
    | some .directory =>
      let found := (t.filesBelow l excluded).map fun ns => ns.foldl Path.child root
      (found.filter fun p => p.hasExtension extensions).mergeSort Path.le
    | none => []

end Tree
end SourceMend
