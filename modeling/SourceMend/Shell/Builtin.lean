import SourceMend.Shell.Process

/-!
# Commands of the shell itself

Some commands are part of the shell.  They print texts, compare values, look at
files, change the working directory, or end the script.
-/

namespace SourceMend.Shell.Builtin

/-! ## Escapes -/

/-- At most `count` octal digits, and what follows them. -/
def octal : (count : Nat) → Text → Text × Text
  | 0, s => ([], s)
  | _, [] => ([], [])
  | n + 1, c :: r =>
    if '0' ≤ c ∧ c ≤ '7' then
      let (ds, rest) := octal n r
      (c :: ds, rest)
    else ([], c :: r)

/-- The character of an escape letter. -/
def escaped? (c : Char) : Option Char :=
  match c with
  | 'a' => some '\x07'
  | 'b' => some '\x08'
  | 'f' => some '\x0c'
  | 'n' => some '\n'
  | 'r' => some '\r'
  | 't' => some '\t'
  | 'v' => some '\x0b'
  | '\\' => some '\\'
  | _ => none

/-- A text with its escapes replaced, and whether it goes on.  A `\c` ends everything.  A code has
three octal digits after an optional zero if `zero` is true.  Every round takes a character
away. -/
def unescape (zero : Bool) : (fuel : Nat) → Text → Text × Bool
  | 0, _ => ([], true)
  | _, [] => ([], true)
  | fuel + 1, '\\' :: c :: r =>
    if c = 'c' then ([], false)
    else
      match escaped? c with
      | some d => cons d (unescape zero fuel r)
      | none =>
        let (ds, rest) :=
          if zero then (if c = '0' then octal 3 r else ([], r)) else octal 3 (c :: r)
        if ds.isEmpty ∧ c ≠ '0' then cons '\\' (unescape zero fuel (c :: r))
        else
          cons (Char.ofNat ((Text.digits 8 ds).getD 0 % 256)) (unescape zero fuel rest)
  | fuel + 1, c :: r => cons c (unescape zero fuel r)
where
  /-- A character in front of an unescaped text. -/
  cons (c : Char) (p : Text × Bool) : Text × Bool := (c :: p.1, p.2)

/-! ## Printing -/

/-- Printing arguments with blanks between them, and a line feed unless `-n` comes first. -/
def echo (arguments : List String) : Outcome :=
  let (arguments, ending) := match arguments with
    | "-n" :: rest => (rest, [])
    | all => (all, ['\n'])
  let s := (" ".intercalate arguments).toList
  let (s, goesOn) := unescape true s.length s
  { stdout := bytesOf (if goesOn then s ++ ending else s) }

/-- A format filled with arguments, and the arguments that are left.  Missing ones are empty. -/
def fill (arguments : List String) : Text → Text × List String
  | [] => ([], arguments)
  | '%' :: '%' :: r =>
    let (s, rest) := fill arguments r
    ('%' :: s, rest)
  | '%' :: c :: r =>
    if c = 's' ∨ c = 'd' ∨ c = 'i' ∨ c = 'b' ∨ c = 'u' then
      let missing := if c = 's' ∨ c = 'b' then "" else "0"
      let (s, rest) := fill arguments.tail r
      ((arguments.headD missing).toList ++ s, rest)
    else
      let (s, rest) := fill arguments r
      ('%' :: c :: s, rest)
  | c :: r =>
    let (s, rest) := fill arguments r
    (c :: s, rest)

/-- A format filled until no argument is left.  Every round takes an argument away. -/
def fillAll (format : Text) : (fuel : Nat) → List String → Text
  | 0, _ => []
  | fuel + 1, arguments =>
    let (s, rest) := fill arguments format
    if rest.isEmpty ∨ rest.length = arguments.length then s else s ++ fillAll format fuel rest

/-- Printing arguments in a format. -/
def printf (arguments : List String) : Outcome :=
  match arguments with
  | [] => .failure 2 "printf" "usage"
  | format :: rest =>
    let (format, _) := unescape false format.length format.toList
    { stdout := bytesOf (fillAll format (rest.length + 1) rest) }

/-! ## Conditions -/

/-- Whether an integer is in a relation to another. -/
def compare? (op : String) (a b : Int) : Option Bool :=
  match op with
  | "-eq" => some (a == b)
  | "-ne" => some (a != b)
  | "-lt" => some (a < b)
  | "-le" => some (a ≤ b)
  | "-gt" => some (b < a)
  | "-ge" => some (b ≤ a)
  | _ => none

/-- The integer that a text stands for, blanks at its ends aside. -/
def integer? (s : String) : Option Int :=
  match Text.trim s.toList with
  | '-' :: r => (Text.digits 10 r).map fun n => -n
  | r => (Text.natural r).map fun n => n

/-- Whether a condition with one operand holds. -/
def unary? (t : Tree) (op a : String) : Option Bool :=
  match op with
  | "-n" => some !a.isEmpty
  | "-z" => some a.isEmpty
  | "-e" => some (t.has ⟨a⟩)
  | "-r" => some (t.has ⟨a⟩)
  | "-f" => some (t.hasFile ⟨a⟩)
  | "-d" => some (t.find? ⟨a⟩ = some .directory)
  | "-s" =>
    match t.find? ⟨a⟩ with
    | some (.file bytes) => some !bytes.isEmpty
    | some .directory => some true
    | none => some false
  | _ => none

/-- Whether a condition holds, if it has a meaning. -/
def condition? (t : Tree) : List String → Option Bool
  | [] => some false
  | [a] => some !a.isEmpty
  | "!" :: rest => (condition? t rest).map (!·)
  | [op, a] => unary? t op a
  | [a, op, b] =>
    if op = "=" then some (a == b)
    else if op = "!=" then some (a != b)
    else do compare? op (← integer? a) (← integer? b)
  | _ => none

/-- The script after a condition. -/
def test (p : Process) (arguments : List String) : Process :=
  match condition? p.tree arguments with
  | some true => p.withStatus 0
  | some false => p.withStatus 1
  | none => p.fail 2 "test: unexpected operator"

/-! ## The script itself -/

/-- The end of the script, with the status of the last command if none is given. -/
def exit (p : Process) (arguments : List String) : Process :=
  match arguments with
  | [] => { p with ending := some .exit }
  | a :: _ =>
    match Text.digits 10 a.toList with
    | some n => { p.withStatus (n % 256) with ending := some .exit }
    | none => { p.fail 2 ("exit: Illegal number: " ++ a) with ending := some .exit }

/-- The script in another working directory. -/
def cd (p : Process) (arguments : List String) : Process :=
  match p.tree.locate ⟨arguments.headD "/"⟩ with
  | .ok l =>
    if p.tree.get? l = some .directory then { p.withStatus 0 with tree.here := l }
    else p.fail 2 "cd: can't cd"
  | .error _ => p.fail 2 "cd: can't cd"

/-- The script after a signal.  Only the script itself can be reached, and signals that end it are
all but the signal 0. -/
def kill (p : Process) (arguments : List String) : Process :=
  let harmless := arguments.contains "-0"
  if arguments.contains Process.number then
    if harmless then p.withStatus 0 else { p with ending := some .signal }
  else p.fail 1 "kill: No such process"

/-- The script after a command of the shell itself, if there is one of a name. -/
def run? (p : Process) (name : String) (arguments : List String) : Option Process :=
  match name with
  | ":" => some (p.withStatus 0)
  | "true" => some (p.withStatus 0)
  | "false" => some (p.withStatus 1)
  | "export" => some (p.withStatus 0)
  | "set" => some (p.withStatus 0)
  | "wait" => some (p.withStatus 0)
  | "echo" => some (p.after (echo arguments))
  | "printf" => some (p.after (printf arguments))
  | "test" => some (test p arguments)
  | "[" =>
    if arguments.getLast? = some "]" then some (test p arguments.dropLast)
    else some (p.fail 2 "[: missing ]")
  | "exit" => some (exit p arguments)
  | "cd" => some (cd p arguments)
  | "kill" => some (kill p arguments)
  | _ => none

end SourceMend.Shell.Builtin
