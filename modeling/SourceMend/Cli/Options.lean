import SourceMend.Text.Cut
import SourceMend.Text.Numeral

/-!
# Options on a command line

An option is a flag or takes a value, as the next argument or after an equals
sign.  Some options may be repeated, and their values may be lists with commas.
`Options.ofArguments` collects the options of a command, which takes no other
arguments.

A value that has been announced but not seen is checked only when the next option
begins, so an argument that is no option at all is reported first.
-/

namespace SourceMend.Cli

/-- Why a command line is not carried out. -/
inductive UsageError where
  /-- Help is asked for. -/
  | help
  /-- The version is asked for. -/
  | version
  /-- No command is given. -/
  | missingCommand
  /-- The command does not exist. -/
  | unknownCommand
  /-- An argument is not known. -/
  | unknownArgument
  /-- An option that may be given once is repeated. -/
  | repeated
  /-- A flag is given a value. -/
  | unwantedValue
  /-- An option is not given a value. -/
  | missingValue
  /-- A value is not of the right form. -/
  | invalidValue
  deriving DecidableEq, Repr

/-- Asking for help or for the version is no failure. -/
def UsageError.exitCode : UsageError → Nat
  | help => 0
  | version => 0
  | _ => 2

/-- What may be given to an option. -/
inductive Arity where
  /-- Nothing. -/
  | flag
  /-- One value. -/
  | single
  /-- Any number of values, in lists with commas. -/
  | many
  deriving DecidableEq, Repr

/-- An option of a command. -/
structure OptionSpec where
  /-- The names, the first of which stands for the option. -/
  names : List String
  /-- What may be given to it. -/
  arity : Arity
  /-- Whether a value is of the right form. -/
  valid : String → Bool := fun _ => true

/-- The name that stands for an option. -/
def OptionSpec.name (o : OptionSpec) : String := o.names.headD ""

/-- The options that have been given. -/
structure Options where
  /-- The names of the options with their values, in order. -/
  given : List (String × List String) := []
  /-- The option whose value is not complete, with the value that has been seen. -/
  pending : Option (OptionSpec × Option String) := none

namespace Options

/-- The values of one argument of an option. -/
def valuesOf (o : OptionSpec) (raw : String) : List String :=
  match o.arity with
  | .many => (Text.pieces ',' raw.toList).map .ofList
  | _ => [raw]

/-- The options with one more. -/
def accept (os : Options) (o : OptionSpec) (values : List String) : Except UsageError Options :=
  if o.arity ≠ .many ∧ os.given.any (·.1 = o.name) then .error .repeated
  else if values.all o.valid then .ok { os with given := os.given ++ [(o.name, values)] }
  else .error .invalidValue

/-- The options with the pending one completed. -/
def settle (os : Options) : Except UsageError Options :=
  match os.pending with
  | none => .ok os
  | some (_, none) => .error .missingValue
  | some (o, some raw) => { os with pending := none }.accept o (valuesOf o raw)

/-- The options after a name with the value after its equals sign, if it has one. -/
def long (specs : List OptionSpec) (os : Options) (name : String) (value? : Option String) :
    Except UsageError Options :=
  if name = "help" then
    if value?.isSome then .error .unwantedValue
    else do
      let _ ← os.settle
      throw .help
  else
    match specs.find? fun o => o.names.contains name with
    | none => .error .unknownArgument
    | some o =>
      match o.arity, value? with
      | .flag, some _ => .error .unwantedValue
      | .flag, none => do (← os.settle).accept o []
      | _, some raw => do (← os.settle).accept o (valuesOf o raw)
      | _, none => do return { ← os.settle with pending := some (o, none) }

/-- The name of a long option and the value after its equals sign. -/
def cutValue (s : Text) : String × Option String :=
  match Text.cutAt ['='] s with
  | some (name, value) => (.ofList name, some (.ofList value))
  | none => (.ofList s, none)

/-- The options after one more argument. -/
def step (specs : List OptionSpec) (os : Options) (argument : String) :
    Except UsageError Options :=
  match argument.toList with
  | '-' :: '-' :: s =>
    let (name, value?) := cutValue s
    long specs os name value?
  | '-' :: c :: _ =>
    if c = 'h' then do
      let _ ← os.settle
      throw .help
    else .error .unknownArgument
  | _ =>
    match os.pending with
    | some (o, none) => .ok { os with pending := some (o, some argument) }
    | _ => .error .unknownArgument

/-- The options after some arguments.  After `--` there must be no more. -/
def steps (specs : List OptionSpec) (os : Options) : List String → Except UsageError Options
  | [] => .ok os
  | "--" :: rest => if rest.isEmpty then .ok os else .error .unknownArgument
  | a :: rest => do
    let os ← step specs os a
    steps specs os rest

/-- The options that some arguments give. -/
def ofArguments (specs : List OptionSpec) (arguments : List String) :
    Except UsageError Options := do
  (← steps specs {} arguments).settle

/-- Whether a flag is given. -/
def flag (os : Options) (name : String) : Option Bool :=
  if os.given.any (·.1 = name) then some true else none

/-- All values of an option, if it is given. -/
def values? (os : Options) (name : String) : Option (List String) :=
  let vs := os.given.filter (·.1 = name)
  if vs.isEmpty then none else some (vs.flatMap (·.2))

/-- The value of an option, if it is given. -/
def value? (os : Options) (name : String) : Option String := (os.values? name).bind (·.head?)

end Options
end SourceMend.Cli
