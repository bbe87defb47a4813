import SourceMend.Catalog.File
import SourceMend.Run.Config
import SourceMend.Settings.File

/-!
# Settings

The settings of a command come from the command line, from the settings file of
the project, and from defaults, in this order.  The *project root* is the nearest
directory, from the target upwards, that has a settings file or a `.git`.  If
there is none, it is the directory that the search starts from.
-/

namespace SourceMend

/-- The settings that are given on the command line. -/
structure Overrides where
  /-- The target. -/
  path : Option String := none
  /-- The extensions of candidates, none if the list is empty. -/
  extensions : List String := []
  /-- Whether nothing is written. -/
  dryRun : Option Bool := none
  /-- Whether reports say more. -/
  verbose : Option Bool := none
  /-- Whether runs are verified. -/
  verify : Option Bool := none
  /-- Whether diagnostics that remain are a failure. -/
  strict : Option Bool := none
  /-- Whether dry runs show differences. -/
  diff : Option Bool := none
  /-- The priorities of the steps that run. -/
  steps : Option (List Nat) := none
  /-- The number of files that are processed at a time. -/
  jobs : Option Nat := none
  /-- The form of reports. -/
  output : Option String := none
  /-- The catalog file. -/
  catalog : Option String := none
  deriving DecidableEq, Repr

/-- The settings of a command. -/
structure Settings where
  /-- The project root. -/
  root : Path
  /-- Whether the project root has a settings file. -/
  configured : Bool
  /-- The target of runs. -/
  target : Path
  /-- The extensions of candidates. -/
  extensions : List String
  /-- The names of directories that are not entered. -/
  excluded : List String
  /-- Whether nothing is written. -/
  dryRun : Bool
  /-- Whether reports say more. -/
  verbose : Bool
  /-- Whether runs are verified. -/
  verify : Bool
  /-- Whether diagnostics that remain are a failure. -/
  strict : Bool
  /-- Whether dry runs show differences. -/
  diff : Bool
  /-- The priorities of the steps that run, all steps if there is no list. -/
  steps : Option (List Nat)
  /-- The number of files that are processed at a time. -/
  jobs : Nat
  /-- The form of reports. -/
  output : String
  /-- The catalog file, if the built-in catalog is not used. -/
  catalog : Option Path
  /-- The suffix of backups, if they are not named after the time. -/
  suffix : Option String
  /-- The checker with its arguments. -/
  command : List String
  /-- The number of seconds that the checker may take. -/
  timeout : Nat
  deriving DecidableEq, Repr

namespace Settings

/-! ## The project root -/

/-- The checker, unless another is given. -/
def defaultCommand : List String := ["npx", "tsc", "--noEmit", "--pretty", "false"]

/-- The number of seconds that the checker may take, unless another is given. -/
def defaultTimeout : Nat := 300

/-- The absolute path of `p`, with dots worked off if it exists.  What does not exist is read from
the working directory, and is left as it is when that does not exist either. -/
def absolute (t : Tree) (p : Path) : Path :=
  let p := if p.text.bytes.isEmpty then ⟨"."⟩ else p
  (t.canonical? p <|> t.currentDirectory?.map (·.join p)).getD p

/-- Whether a directory is a project root of its own. -/
def isRoot (t : Tree) (p : Path) : Bool :=
  (FileSettings.fileNames ++ [".git"]).any fun n : String => t.has (p.child n)

/-- The first project root from `p` upwards.  Every round takes a component away. -/
def rootFrom (t : Tree) : (fuel : Nat) → Path → Option Path
  | 0, _ => none
  | fuel + 1, p =>
    if isRoot t p then some p
    else
      match p.parent? with
      | some q => if q.text.bytes.isEmpty then none else rootFrom t fuel q
      | none => none

/-- The project root for the directory `p`. -/
def findRoot (t : Tree) (p : Path) : Path :=
  let start := absolute t p
  (rootFrom t (start.text.bytes.length + 1) start).getD start

/-! ## Precedence -/

/-- The settings for some overrides. -/
def resolve (t : Tree) (o : Overrides) : Except SettingsError Settings := do
  let start : Path := ⟨o.path.getD "."⟩
  let near := if t.hasFile start then start.parent?.getD ⟨.empty⟩ else start
  let root := findRoot t near
  let file ← FileSettings.load t root
  let f := file.getD {}
  return {
    root
    configured := file.isSome
    target :=
      if o.path.isSome then start
      else
        match f.path with
        | some p => root.child p
        | none => root
    extensions :=
      if o.extensions.isEmpty then f.extensions.getD defaultExtensions else o.extensions
    excluded := f.excluded.getD defaultExcluded
    dryRun := (o.dryRun <|> f.dryRun).getD false
    verbose := (o.verbose <|> f.verbose).getD false
    verify := (o.verify <|> f.verify).getD false
    strict := (o.strict <|> f.strict).getD false
    diff := (o.diff <|> f.diff).getD false
    steps := o.steps <|> f.steps
    jobs := (o.jobs <|> f.jobs).getD 0
    output := (o.output <|> f.output).getD "human"
    catalog :=
      (o.catalog.map fun c : String => ⟨c⟩) <|> f.catalog.map fun c : String => root.child c
    suffix := f.suffix
    command := f.command.getD defaultCommand
    timeout := f.timeout.getD defaultTimeout }

/-! ## What settings stand for -/

/-- The settings of a run whose backups are named after `stamp` if no suffix is set. -/
def runConfig (s : Settings) (stamp : String) : RunConfig :=
  { target := s.target
    extensions := s.extensions
    excluded := s.excluded
    dryRun := s.dryRun
    verbose := s.verbose
    verify := s.verify
    steps := s.steps
    diff := s.diff
    backup := match s.suffix with
      | some x => .suffix x
      | none => .stamp stamp }

/-- The catalog that is used. -/
def loadCatalog (s : Settings) (t : Tree) : Except CatalogError Catalog :=
  match s.catalog with
  | some p => Catalog.load t p
  | none => Catalog.builtin

end Settings
end SourceMend
