import SourceMend.Shell.Token

/-!
# Shell commands

A command is a *simple* one, which names a program and its arguments, or is
joined of others.  There are no loops but those over the words of a list, so
every command comes to an end.  `Command.ofText?` reads a script.
-/

namespace SourceMend.Shell

/-- What becomes of a stream of a command. -/
structure Redirect where
  /-- The number of the stream. -/
  stream : Nat
  /-- What is done with it. -/
  kind : RedirectKind
  /-- The file or the other stream. -/
  target : Word
  deriving DecidableEq, Repr

/-- A program with its arguments. -/
structure Simple where
  /-- The variables that are set for the program, or for good if there is no program. -/
  settings : List (String × Word) := []
  /-- The program and its arguments. -/
  words : List Word := []
  /-- What becomes of the streams. -/
  redirects : List Redirect := []
  deriving DecidableEq, Repr

/-- A command. -/
inductive Command where
  /-- Nothing. -/
  | nothing
  /-- A program with its arguments. -/
  | simple (s : Simple)
  /-- Two commands, the second of which reads what the first one writes. -/
  | pipe (first second : Command)
  /-- A command that succeeds when another fails. -/
  | negated (c : Command)
  /-- A command, and another if it succeeds. -/
  | both (first second : Command)
  /-- A command, and another if it fails. -/
  | either (first second : Command)
  /-- A command after another. -/
  | sequence (first second : Command)
  /-- One of two commands, chosen by a third. -/
  | branch (condition thenDo elseDo : Command)
  /-- A command for every word of a list. -/
  | each (name : String) (words : List Word) (body : Command)
  /-- A command whose end and whose variables do not concern what follows. -/
  | apart (c : Command)
  /-- A command with redirected streams. -/
  | redirected (c : Command) (redirects : List Redirect)
  deriving DecidableEq, Repr

namespace Command

/-! ## Simple commands -/

/-- The variable and the value that a word sets. -/
def setting? : Word → Option (String × Word)
  | .text [c] false :: r =>
    if isNameStart c then (rest r).map fun p => (.ofList (c :: p.1), p.2) else none
  | _ => none
where
  /-- The characters up to an equals sign, and the pieces after it. -/
  rest : Word → Option (Text × Word)
    | .text [c] false :: r =>
      if c = '=' then some ([], r)
      else if isNameChar c then (rest r).map fun p => (c :: p.1, p.2)
      else none
    | _ => none

/-- A simple command with what the tokens add to it, and the tokens after it. -/
def readSimple (s : Simple) : List Token → Simple × List Token
  | .word w :: ts =>
    match setting? w, s.words with
    | some v, [] => readSimple { s with settings := s.settings ++ [v] } ts
    | _, _ => readSimple { s with words := s.words ++ [w] } ts
  | .redirect n k :: .word w :: ts =>
    readSimple { s with redirects := s.redirects ++ [⟨n, k, w⟩] } ts
  | ts => (s, ts)

/-- The redirections at the front of some tokens, and the tokens after them. -/
def readRedirects : List Token → List Redirect × List Token
  | .redirect n k :: .word w :: ts =>
    let (rs, rest) := readRedirects ts
    (⟨n, k, w⟩ :: rs, rest)
  | ts => ([], ts)

/-! ## Commands made of commands -/

/-- The words that are no programs where a command may start. -/
def reservedWords : List String :=
  ["!", "case", "do", "done", "elif", "else", "esac", "fi", "for", "if", "in", "then", "until",
    "while", "\x7b", "\x7d"]

/-- The reserved word at the front of some tokens, and the tokens after it. -/
def reserved? : List Token → Option (String × List Token)
  | .word w :: ts => do
    let s ← w.literal?
    if reservedWords.contains (.ofList s) then some (.ofList s, ts) else none
  | _ => none

/-- The tokens after a reserved word that has to come next. -/
def expect (word : String) (ts : List Token) : Option (List Token) := do
  let (w, rest) ← reserved? ts
  if w = word then some rest else none

/-- The tokens after the ends of lines. -/
def skipLines : List Token → List Token
  | .mark .line :: ts => skipLines ts
  | ts => ts

/-- Whether a list of commands is over. -/
def atListEnd (ts : List Token) : Bool :=
  match ts with
  | [] => true
  | .mark .closing :: _ => true
  | _ =>
    match reserved? ts with
    | some (w, _) => ["do", "done", "elif", "else", "fi", "then", "\x7d"].contains w
    | none => false

/-- A command with the redirections at the front of some tokens. -/
def withRedirects (c : Command) (ts : List Token) : Command × List Token :=
  match readRedirects ts with
  | ([], rest) => (c, rest)
  | (rs, rest) => (.redirected c rs, rest)

/-- Two commands one after the other. -/
def andThen (c d : Command) : Command := if d = .nothing then c else .sequence c d

/-- The words of a list up to the mark that ends it, and the tokens after the mark. -/
def readWords : List Token → Option (List Word × List Token)
  | .word w :: ts => (readWords ts).map fun p => (w :: p.1, p.2)
  | .mark .semicolon :: ts => some ([], ts)
  | .mark .line :: ts => some ([], ts)
  | _ => none

mutual

/-- Commands in a row, and the tokens after them.  At most eight calls come between two that take
a token away. -/
def readList : (fuel : Nat) → List Token → Option (Command × List Token)
  | 0, _ => none
  | fuel + 1, ts =>
    let ts := skipLines ts
    if atListEnd ts then some (.nothing, ts)
    else
      match readAndOr fuel ts with
      | some (c, .mark .semicolon :: ts) => (readList fuel ts).map fun p => (andThen c p.1, p.2)
      | some (c, .mark .line :: ts) => (readList fuel ts).map fun p => (andThen c p.1, p.2)
      | some (c, .mark .background :: ts) =>
        (readList fuel ts).map fun p => (.sequence (.apart c) p.1, p.2)
      | r => r

/-- A list of commands that is not empty. -/
def readBody : (fuel : Nat) → List Token → Option (Command × List Token)
  | 0, _ => none
  | fuel + 1, ts => (readList fuel ts).filter fun p => p.1 ≠ .nothing

/-- Commands joined by success or failure. -/
def readAndOr : (fuel : Nat) → List Token → Option (Command × List Token)
  | 0, _ => none
  | fuel + 1, ts => do
    let (c, ts) ← readPipeline fuel ts
    readAndOrAfter fuel c ts

/-- A command with what is joined to it by success or failure. -/
def readAndOrAfter : (fuel : Nat) → Command → List Token → Option (Command × List Token)
  | 0, _, _ => none
  | fuel + 1, c, .mark .both :: ts => do
    let (d, ts) ← readPipeline fuel (skipLines ts)
    readAndOrAfter fuel (.both c d) ts
  | fuel + 1, c, .mark .either :: ts => do
    let (d, ts) ← readPipeline fuel (skipLines ts)
    readAndOrAfter fuel (.either c d) ts
  | _ + 1, c, ts => some (c, ts)

/-- Commands joined by bars, maybe negated. -/
def readPipeline : (fuel : Nat) → List Token → Option (Command × List Token)
  | 0, _ => none
  | fuel + 1, ts =>
    match expect "!" ts with
    | some ts => do
      let (c, ts) ← readCommand fuel ts
      let (c, ts) ← readPipelineAfter fuel c ts
      return (.negated c, ts)
    | none => do
      let (c, ts) ← readCommand fuel ts
      readPipelineAfter fuel c ts

/-- A command with what reads its output. -/
def readPipelineAfter : (fuel : Nat) → Command → List Token → Option (Command × List Token)
  | 0, _, _ => none
  | fuel + 1, c, .mark .pipe :: ts => do
    let (d, ts) ← readCommand fuel (skipLines ts)
    readPipelineAfter fuel (.pipe c d) ts
  | _ + 1, c, ts => some (c, ts)

/-- One command with its redirections. -/
def readCommand : (fuel : Nat) → List Token → Option (Command × List Token)
  | 0, _ => none
  | fuel + 1, .mark .opening :: ts =>
    match readBody fuel ts with
    | some (c, .mark .closing :: ts) => some (withRedirects (.apart c) ts)
    | _ => none
  | fuel + 1, ts =>
    match reserved? ts with
    | some ("if", ts) => do
      let (c, ts) ← readBranch fuel ts
      return withRedirects c ts
    | some ("for", .word w :: ts) => do
      let name ← w.literal?
      let ts ← expect "in" ts
      let (ws, ts) ← readWords ts
      let (c, ts) ← readBody fuel (← expect "do" (skipLines ts))
      return withRedirects (.each (.ofList name) ws c) (← expect "done" ts)
    | some ("\x7b", ts) => do
      let (c, ts) ← readBody fuel ts
      return withRedirects c (← expect "\x7d" ts)
    | some _ => none
    | none =>
      match readSimple {} ts with
      | (⟨[], [], []⟩, _) => none
      | (s, ts) => some (.simple s, ts)

/-- A conditional after its first word. -/
def readBranch : (fuel : Nat) → List Token → Option (Command × List Token)
  | 0, _ => none
  | fuel + 1, ts => do
    let (c, ts) ← readBody fuel ts
    let (t, ts) ← readBody fuel (← expect "then" ts)
    match ← reserved? ts with
    | ("fi", ts) => return (.branch c t .nothing, ts)
    | ("else", ts) => do
      let (e, ts) ← readBody fuel ts
      return (.branch c t e, ← expect "fi" ts)
    | ("elif", ts) => do
      let (e, ts) ← readBranch fuel ts
      return (.branch c t e, ts)
    | _ => none

end

/-- The command of a script. -/
def ofText? (s : Text) : Option Command := do
  let ts ← Token.ofText? s
  match ← readList (8 * (ts.length + 1)) ts with
  | (c, []) => some c
  | _ => none

end Command
end SourceMend.Shell
