import SourceMend.Diagnostic
import SourceMend.Tree

/-!
# Outstanding codes by file

An index holds the codes of diagnostics by file.  The path of a diagnostic is
read from a directory and resolved, so that every spelling of the path of a file
finds the same codes.  A path that does not resolve is kept as it is, and then
only paths alike to it find its codes.
-/

namespace SourceMend

/-- The path that stands for all spellings of `p`. -/
def Tree.settled (t : Tree) (p : Path) : Path := (t.canonical? p).getD p

namespace Diagnostic

/-- Codes by file. -/
structure Index where
  /-- Every code with the path of its file. -/
  entries : List (Path × String)

namespace Index

/-- The index without codes. -/
def empty : Index := ⟨[]⟩

/-- The index of some diagnostics whose paths are read from `root`. -/
def build (t : Tree) (root : Path) (ds : List Diagnostic) : Index :=
  ⟨ds.map fun d => (t.settled (root.join ⟨d.file⟩), d.code)⟩

/-- The codes for a file, ascending and each once, if there are diagnostics for it. -/
def codesFor (i : Index) (t : Tree) (p : Path) : Option (List String) :=
  let key := (t.settled p).components
  let codes := (i.entries.filter fun e => e.1.components = key).map (·.2)
  if codes.isEmpty then none
  else some (codes.mergeSort fun a b => decide (a ≤ b)).eraseDups

end Index
end Diagnostic
end SourceMend
