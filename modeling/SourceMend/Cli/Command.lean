import SourceMend.Cli.Options
import SourceMend.Settings

/-!
# Commands

The command line names one of four commands, with options of its own.
`Command.ofArguments` reads it.
-/

namespace SourceMend.Cli

/-- What is asked for on the command line. -/
inductive Command where
  /-- The version. -/
  | version
  /-- A run. -/
  | run (o : Overrides)
  /-- The steps of the catalog. -/
  | steps (o : Overrides)
  /-- The diagnostics of the project. -/
  | check (o : Overrides)
  deriving DecidableEq, Repr

namespace Command

/-! ## Values -/

/-- A whole number that may have a sign, if it is below a limit and not negative. -/
def signed? (limit : Nat) (s : Text) : Option Nat :=
  match s with
  | '-' :: r => (Text.digits 10 r).filter (· = 0)
  | s => Text.bounded limit s

/-- The priority that a text stands for. -/
def priority? (s : String) : Option Nat := signed? Text.word32 s.toList

/-- The number of jobs that a text stands for. -/
def jobs? (s : String) : Option Nat := Text.bounded Text.word64 s.toList

/-! ## Options -/

/-- An option that takes a text. -/
def textOption (name : String) : OptionSpec := { names := [name], arity := .single }

/-- An option that takes nothing. -/
def flagOption (names : List String) : OptionSpec := { names, arity := .flag }

/-- The options of a run. -/
def runOptions : List OptionSpec :=
  [textOption "path", flagOption ["dry-run", "dryrun"], flagOption ["verbose"],
    flagOption ["verify"], flagOption ["strict"], { names := ["include"], arity := .many },
    { names := ["step"], arity := .many, valid := fun s => (priority? s).isSome },
    { names := ["jobs"], arity := .single, valid := fun s => (jobs? s).isSome },
    flagOption ["diff"], textOption "output", textOption "catalog"]

/-- The options of the listing of steps. -/
def stepsOptions : List OptionSpec := ["path", "catalog", "output"].map textOption

/-- The options of the listing of diagnostics. -/
def checkOptions : List OptionSpec :=
  [textOption "path", flagOption ["verbose"], textOption "output"]

/-- The settings that some options give. -/
def overrides (os : Options) : Overrides :=
  { path := os.value? "path"
    extensions := (os.values? "include").getD []
    dryRun := os.flag "dry-run"
    verbose := os.flag "verbose"
    verify := os.flag "verify"
    strict := os.flag "strict"
    diff := os.flag "diff"
    steps := (os.values? "step").map fun vs => vs.filterMap priority?
    jobs := (os.value? "jobs").bind jobs?
    output := os.value? "output"
    catalog := os.value? "catalog" }

/-! ## Commands -/

/-- The command with a name and its arguments. -/
def named? (name : String) (arguments : List String) : Option (Except UsageError Command) :=
  match name with
  | "version" => some ((Options.ofArguments [] arguments).map fun _ => version)
  | "run" => some ((Options.ofArguments runOptions arguments).map fun os => run (overrides os))
  | "steps" =>
    some ((Options.ofArguments stepsOptions arguments).map fun os => steps (overrides os))
  | "check" =>
    some ((Options.ofArguments checkOptions arguments).map fun os => check (overrides os))
  | _ => none

/-- Whether a command has a name. -/
def isName (name : String) : Bool := ["version", "run", "steps", "check", "help"].contains name

/-- What asking for help on some commands comes to.  No command has commands of its own. -/
def help : List String → UsageError
  | [] => .help
  | [name] => if isName name then .help else .unknownCommand
  | _ :: _ :: _ => .unknownCommand

/-- What an option before the command comes to. -/
def early (s : Text) : UsageError :=
  match Options.cutValue s with
  | ("help", none) => .help
  | ("version", none) => .version
  | ("help", some _) => .unwantedValue
  | ("version", some _) => .unwantedValue
  | _ => .unknownArgument

/-- What the argument after a `--` in front of the command comes to. -/
def afterDashes : List String → UsageError
  | [] => .missingCommand
  | a :: _ => if isName a then .unknownArgument else .unknownCommand

/-- What is asked for with some arguments. -/
def ofArguments : List String → Except UsageError Command
  | [] => .error .missingCommand
  | a :: rest =>
    if a = "--" then .error (afterDashes rest)
    else if a = "help" then .error (help rest)
    else
      match a.toList with
      | '-' :: '-' :: s => .error (early s)
      | '-' :: c :: _ =>
        .error (if c = 'h' then .help else if c = 'V' then .version else .unknownArgument)
      | _ =>
        match named? a rest with
        | some r => r
        | none => .error .unknownCommand

end Command
end SourceMend.Cli
