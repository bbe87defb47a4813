import SourceMend.Shell.Search

/-!
# Installed programs

Besides the shell there are five programs.  `cat` writes files to its output,
`grep` selects lines, `sleep` waits, `true` succeeds and `false` fails.
-/

namespace SourceMend.Shell.Program

/-! ## Files -/

/-- The bytes of a file as a program reads it, or of the input for a hyphen. -/
def read (t : Tree) (input : ByteArray) (file : String) : Except Fault ByteArray :=
  if file = "-" then .ok input
  else if file = "/dev/null" then .ok .empty
  else t.read ⟨file⟩

/-- The text of a fault as programs write it, without its number. -/
def reason (f : Fault) : String :=
  match Text.cutAt " (os error".toList f.message.toList with
  | some (s, _) => .ofList s
  | none => f.message

/-- Writing a file to the output. -/
def catFile (t : Tree) (input : ByteArray) (file : String) : Outcome :=
  match read t input file with
  | .ok bytes => { stdout := bytes }
  | .error f => .failure 1 "cat" (file ++ ": " ++ reason f)

/-- Writing files, or the input if there are none, to the output. -/
def cat (t : Tree) (input : ByteArray) (arguments : List String) : Outcome :=
  let files := arguments.filter (· ≠ "--")
  if files.isEmpty then { stdout := input }
  else files.foldl (fun o file => o.followedBy (catFile t input file)) {}

/-! ## Lines -/

/-- Options, expressions and files of a search. -/
structure SearchArguments where
  /-- The options. -/
  options : Search.Options := {}
  /-- The expressions that are announced as such. -/
  expressions : List String := []
  /-- The other arguments. -/
  others : List String := []

/-- The arguments after the letters of an option, of which `e` announces an expression. -/
def searchLetters (a : SearchArguments) (next : List String) :
    Text → Option (SearchArguments × List String)
  | [] => some (a, next)
  | 'e' :: [] =>
    match next with
    | e :: rest => some ({ a with expressions := a.expressions ++ [e] }, rest)
    | [] => none
  | 'e' :: s => some ({ a with expressions := a.expressions ++ [.ofList s] }, next)
  | c :: s =>
    match a.options.letter? c with
    | some o => searchLetters { a with options := o } next s
    | none => none

/-- The arguments of a search.  Every round takes an argument away. -/
def searchArguments (a : SearchArguments) : (fuel : Nat) → List String → Option SearchArguments
  | 0, _ => none
  | _, [] => some a
  | fuel + 1, x :: rest =>
    match x.toList with
    | ['-', '-'] => some { a with others := a.others ++ rest }
    | '-' :: '-' :: _ => none
    | '-' :: c :: s =>
      match searchLetters a rest (c :: s) with
      | some (a, rest) => searchArguments a fuel rest
      | none => none
    | _ => searchArguments { a with others := a.others ++ [x] } fuel rest

/-- Searching a file.  The status is zero if a line is selected. -/
def grepFile (t : Tree) (input : ByteArray) (o : Search.Options) (p : Pattern) (labelled : Bool)
    (file : String) : Outcome :=
  match read t input file with
  | .error f => .failure 2 "grep" (file ++ ": " ++ reason f)
  | .ok bytes =>
    let found := Search.select o p bytes
    let label := if labelled then file ++ ":" else ""
    { status := if found.isEmpty then 1 else 0
      stdout := Search.shown o file label found }

/-- The status of a search in several files: a fault counts, unless nothing is to be shown and a
line is selected. -/
def searchStatus (quiet : Bool) (statuses : List Nat) : Nat :=
  if statuses.contains 2 && !(quiet && statuses.contains 0) then 2
  else if statuses.contains 0 then 0
  else 1

/-- Selecting lines of files, or of the input if there are none. -/
def grep (t : Tree) (input : ByteArray) (arguments : List String) : Outcome :=
  let usage : Outcome := .failure 2 "grep" "usage"
  match searchArguments {} (arguments.length + 1) arguments with
  | none => usage
  | some a =>
    let (expressions, files) := match a.expressions, a.others with
      | [], e :: files => ([e], files)
      | es, files => (es, files)
    let expression := Text.join ['\n'] (expressions.map (·.toList))
    match expressions, Search.patternOf a.options expression with
    | [], _ => usage
    | _, none => usage
    | _, some source =>
      match Pattern.compile source with
      | .error _ => usage
      | .ok p =>
        let files := if files.isEmpty then ["-"] else files
        let outcomes := files.map (grepFile t input a.options p (1 < files.length))
        let all := outcomes.foldl Outcome.followedBy {}
        { all with status := searchStatus a.options.quiet (outcomes.map (·.status)) }

/-! ## Waiting -/

/-- The milliseconds of a unit of time. -/
def unit? : Text → Option Nat
  | [] => some 1000
  | ['s'] => some 1000
  | ['m'] => some 60000
  | ['h'] => some 3600000
  | ['d'] => some 86400000
  | _ => none

/-- The milliseconds that a duration stands for: a decimal number with at most one unit. -/
def duration? (s : Text) : Option Nat := do
  let isPart (c : Char) := c.isDigit || c = '.'
  let unit ← unit? (s.dropWhile isPart)
  let (whole, fraction) := (Text.cutAt ['.'] (s.takeWhile isPart)).getD (s.takeWhile isPart, [])
  if whole = [] ∧ fraction = [] then none
  else
    let w ← if whole = [] then some 0 else Text.digits 10 whole
    let f ← if fraction = [] then some 0 else Text.digits 10 fraction
    return w * unit + f * unit / Nat.pow 10 fraction.length

/-- Waiting for the sum of some durations. -/
def sleep (arguments : List String) : Outcome :=
  match arguments.mapM fun a => duration? a.toList with
  | none => .failure 1 "sleep" "invalid time interval"
  | some [] => .failure 1 "sleep" "missing operand"
  | some ds => { elapsed := ds.foldr (· + ·) 0 }

/-! ## All programs -/

/-- The programs apart from the shell. -/
def simple? (t : Tree) (input : ByteArray) (name : String) (arguments : List String) :
    Option Outcome :=
  match name with
  | "cat" => some (cat t input arguments)
  | "grep" => some (grep t input arguments)
  | "sleep" => some (sleep arguments)
  | "true" => some {}
  | "false" => some { status := 1 }
  | _ => none

/-- The names of the installed programs. -/
def installed : List String := ["sh", "cat", "grep", "sleep", "true", "false"]

end SourceMend.Shell.Program
