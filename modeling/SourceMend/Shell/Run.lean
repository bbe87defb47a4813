import SourceMend.Shell.Builtin
import SourceMend.Shell.Command
import SourceMend.Shell.Program

/-!
# Running scripts

`Command.run` carries a command out, by recursion on the command.  A part that
reads another's output, stands in parentheses or goes to the background is
carried out *apart*: it sees the variables and cannot change them.  What a part
writes to a file gets there when the part has come to its end.

`programs` starts installed programs, among them the shell, which may start
programs in turn.  It counts how deep shells may be nested.
-/

namespace SourceMend.Shell

/-! ## Words -/

/-- A text cut into fields at its blanks. -/
def fields (s : Text) : List Text :=
  let isSpace (c : Char) := isGap c || c = '\n'
  (Text.pieces ' ' (s.map fun c => if isSpace c then ' ' else c)).filter (· ≠ [])

/-- Fields with another one after them: the neighbours become one field. -/
def glue (a b : List Text) : List Text :=
  match a.getLast?, b with
  | some x, y :: r => a.dropLast ++ (x ++ y) :: r
  | _, _ => a ++ b

/-- The fields of a piece. -/
def Piece.fields (p : Process) : Piece → List Text
  | .text s _ => [s]
  | .parameter "@" true => p.arguments.map (·.toList)
  | .parameter name true => [(p.value name).toList]
  | .parameter name false => Shell.fields (p.value name).toList

namespace Word

/-- The fields that a word stands for. -/
def expand (p : Process) (w : Word) : List String :=
  (w.foldl (fun fs piece => glue fs (piece.fields p)) []).map .ofList

/-- The text that a word stands for where there is only one. -/
def text (p : Process) (w : Word) : String :=
  .join (w.map fun piece => match piece with
    | .text s _ => .ofList s
    | .parameter name _ => p.value name)

end Word

/-! ## Streams -/

/-- Where a stream goes. -/
inductive Sink where
  /-- To the standard output. -/
  | stdout
  /-- To the standard error output. -/
  | stderr
  /-- To a file. -/
  | file (path : String)
  /-- Nowhere. -/
  | nowhere
  deriving DecidableEq, Repr

/-- Where the two output streams of a command go, and what it reads. -/
structure Streams where
  /-- The standard output. -/
  stdout : Sink := .stdout
  /-- The standard error output. -/
  stderr : Sink := .stderr
  /-- The standard input. -/
  input : ByteArray
  /-- The tree with the files that are written to. -/
  tree : Tree

namespace Streams

/-- Where a stream goes. -/
def sink (s : Streams) (n : String) : Sink :=
  if n = "1" then s.stdout else if n = "2" then s.stderr else .nowhere

/-- The streams with one of them redirected. -/
def send (s : Streams) (n : Nat) (goal : Sink) : Streams :=
  match n with
  | 1 => { s with stdout := goal }
  | 2 => { s with stderr := goal }
  | _ => s

/-- The streams with one of them redirected to a file, which holds `before` then. -/
def sendTo (s : Streams) (n : Nat) (file : String) (before : ByteArray) :
    Except String Streams :=
  if file = "/dev/null" then .ok (s.send n .nowhere)
  else
    match s.tree.write ⟨file⟩ before with
    | .ok t => .ok { s.send n (.file file) with tree := t }
    | .error _ => .error ("cannot create " ++ file ++ ": Directory nonexistent")

/-- The streams after a redirection, or what is said of the file that cannot be used. -/
def redirect (p : Process) (s : Streams) (r : Redirect) : Except String Streams :=
  let target := r.target.text p
  match r.kind with
  | .write => s.sendTo r.stream target .empty
  | .append => s.sendTo r.stream target ((s.tree.read ⟨target⟩).toOption.getD .empty)
  | .same => .ok (s.send r.stream (s.sink target))
  | .read =>
    match Program.read s.tree s.input target with
    | .ok bytes => .ok { s with input := bytes }
    | .error _ => .error ("cannot open " ++ target ++ ": No such file")

/-- What some bytes add to a sink. -/
def kept (goal sink : Sink) (bytes : ByteArray) : ByteArray :=
  if goal = sink then bytes else .empty

/-- What goes to a sink in the end. -/
def collect (s : Streams) (q : Process) (sink : Sink) : ByteArray :=
  kept s.stdout sink q.stdout ++ kept s.stderr sink q.stderr

/-- The tree with what goes to a sink, if that is a file. -/
def flush (s : Streams) (q : Process) (t : Tree) (sink : Sink) : Tree :=
  match sink with
  | .file path =>
    let before := (t.read ⟨path⟩).toOption.getD .empty
    ((t.write ⟨path⟩ (before ++ s.collect q sink)).toOption).getD t
  | _ => t

/-- The tree with what goes to files in the end, as seen from where the script was. -/
def written (s : Streams) (p q : Process) : Tree :=
  let t := { q.tree with here := p.tree.here }
  { ([s.stdout, s.stderr].eraseDups.foldl (s.flush q) t) with here := q.tree.here }

end Streams

/-- The script after a part of it whose streams are redirected. -/
def redirected (rs : List Redirect) (run : Process → Process) (p : Process) : Process :=
  match rs.foldlM (Streams.redirect p) { input := p.input, tree := p.tree } with
  | .error message => p.fail 2 message
  | .ok s =>
    let q := run { p.fresh with input := s.input, tree := s.tree }
    p.resume
      { q with
        stdout := s.collect q .stdout
        stderr := s.collect q .stderr
        tree := s.written p q }

/-! ## Commands -/

/-- The script after a program that is not part of the shell. -/
def runProgram (programs : Programs) (p : Process) (name : String) (arguments : List String) :
    Process :=
  match programs p.tree p.input name arguments with
  | some (o, t) => (p.inTree t).after o
  | none => p.fail 127 (name ++ ": not found")

/-- The script after a program, the first of some words. -/
def runWords (programs : Programs) (p : Process) : List String → Process
  | [] => p.withStatus 0
  | "exec" :: name :: arguments =>
    { runProgram programs p name arguments with ending := some .exit }
  | name :: arguments =>
    match Builtin.run? p name arguments with
    | some q => q
    | none => runProgram programs p name arguments

/-- The script after a simple command. -/
def Simple.run (programs : Programs) (s : Simple) : Process → Process :=
  redirected s.redirects fun p =>
    let q := s.settings.foldl (fun q v => q.set v.1 (v.2.text q)) p
    match s.words.flatMap (Word.expand p) with
    | [] => q.withStatus 0
    | ws => { runWords programs q ws with settings := p.settings }

namespace Command

/-- The script after a command. -/
def run (programs : Programs) : Command → Process → Process
  | nothing, p => p.withStatus 0
  | simple s, p => s.run programs p
  | pipe a b, p =>
    let q := a.run programs p.fresh
    let r := b.run programs { p.fresh.inTree q.tree with input := q.stdout }
    (p.after ⟨0, .empty, q.stderr, q.elapsed⟩).absorb r
  | negated c, p =>
    let q := c.run programs p
    if q.running then q.withStatus (if q.status = 0 then 1 else 0) else q
  | both a b, p =>
    let q := a.run programs p
    if q.running && q.status == 0 then b.run programs q else q
  | either a b, p =>
    let q := a.run programs p
    if q.running && q.status != 0 then b.run programs q else q
  | sequence a b, p =>
    let q := a.run programs p
    if q.running then b.run programs q else q
  | branch c t e, p =>
    let q := c.run programs p
    if !q.running then q
    else if q.status = 0 then t.run programs q
    else e.run programs q
  | each name words body, p =>
    let values := words.flatMap (Word.expand p)
    values.foldl (fun q v => if q.running then body.run programs (q.set name v) else q)
      (p.withStatus 0)
  | apart c, p => p.absorb (c.run programs p.fresh)
  | redirected c rs, p => Shell.redirected rs (fun p => c.run programs p) p

end Command

/-! ## The shell -/

/-- What a script has done.  A script that cannot be read fails at once. -/
def runScript (programs : Programs) (p : Process) (script : Text) : Process :=
  match Command.ofText? script with
  | some c => c.run programs p
  | none => p.fail 2 "Syntax error"

/-- The status that a shell reports for a program which a signal has ended. -/
def signalStatus : Nat := 137

/-- What a script that has come to its end has done as a program. -/
def Process.outcome (p : Process) : Outcome :=
  { status := if p.ending = some .signal then signalStatus else p.status
    stdout := p.stdout
    stderr := p.stderr
    elapsed := p.elapsed }

/-- Whether an argument announces that a script follows. -/
def announcesScript (a : String) : Bool :=
  match a.toList with
  | '-' :: letters => letters.contains 'c' && letters.all fun c => "ceux".toList.contains c
  | _ => false

/-- What a shell with some arguments does: a script among the arguments, in a file or on the
input. -/
def runShell (programs : Programs) (t : Tree) (input : ByteArray) (arguments : List String) :
    Process :=
  let p : Process := { tree := t, input }
  match arguments with
  | [] => runScript programs { p with input := .empty } (Text.Utf8.decodeLossy input).toList
  | a :: rest =>
    if announcesScript a then
      match rest with
      | [] => p.fail 2 "-c requires an argument"
      | script :: rest =>
        runScript programs { p with name := rest.headD "sh", arguments := rest.tail } script.toList
    else
      match t.read ⟨a⟩ with
      | .error _ => p.fail 2 ("cannot open " ++ a ++ ": No such file")
      | .ok bytes =>
        runScript programs { p with name := a, arguments := rest }
          (Text.Utf8.decodeLossy bytes).toList

/-- The installed programs, when shells may be nested `depth` deep. -/
def programs : (depth : Nat) → Programs
  | 0, t, input, name, arguments => (Program.simple? t input name arguments).map (·, t)
  | depth + 1, t, input, name, arguments =>
    if name = "sh" then
      let p := runShell (programs depth) t input arguments
      some (p.outcome, p.tree)
    else (Program.simple? t input name arguments).map (·, t)

end SourceMend.Shell
