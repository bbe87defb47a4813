import SourceMend.Tree

/-!
# Backups

Before a file is overwritten, its bytes are copied into a new file beside it.
`Naming.pathFor` derives the name of the copy.  When that name is in use, `.1`,
`.2` and so on are added until a free one is found, and the search gives up
after a thousand names.  `Backup.write` only ever creates a file: the tree it
gives holds every file of the tree before, unchanged.
-/

namespace SourceMend

/-- How the names of backups are derived. -/
inductive Backup.Naming where
  /-- The name of the file and a suffix after a dot. -/
  | suffix (s : String)
  /-- The name of the file, `.bak-` and the stamp of the run. -/
  | stamp (s : String)
  deriving DecidableEq, Repr

/-- A copy of a file from before it was overwritten. -/
structure Backup where
  /-- The file that was copied. -/
  file : Path
  /-- The copy. -/
  copy : Path
  deriving DecidableEq, Repr

namespace Backup

/-- What a naming adds to the name of a file.  Dots at the start of a suffix do not count. -/
def Naming.ending : Naming → String
  | suffix s => "." ++ .ofList (s.toList.dropWhile (· == '.'))
  | stamp s => ".bak-" ++ s

/-- The path of the first backup of a file.  The name of the file is read as a string for it. -/
def Naming.pathFor (n : Naming) (file : Path) : Path :=
  file.withFileName (RawText.ofString ((file.fileName?.map RawText.lossy).getD "" ++ n.ending))

/-- The number of names that are tried. -/
def attempts : Nat := 1000

/-- The `n`th name that is tried: the base itself, then the base with `.n` added. -/
def candidate (base : Path) (n : Nat) : Path :=
  if n = 0 then base else base.extend (RawText.ofString ("." ++ toString n))

/-- The first of some paths that can be created, with the tree that then holds it. -/
def createFirst (t : Tree) (bytes : ByteArray) (exhausted : Fault) :
    List Path → Except Fault (Path × Tree)
  | [] => .error exhausted
  | p :: ps =>
    match t.create p bytes with
    | .ok t' => .ok (p, t')
    | .error .occupied => createFirst t bytes exhausted ps
    | .error f => .error f

/-- The tree with a copy of `bytes` beside `file`, and where the copy is. -/
def write (t : Tree) (file : Path) (bytes : ByteArray) (naming : Naming) :
    Except Fault (Backup × Tree) := do
  let base := naming.pathFor file
  let (copy, t') ←
    createFirst t bytes (.noFreeName base.display) ((List.range attempts).map (candidate base))
  return (⟨file, copy⟩, t')

end Backup
end SourceMend
