import SourceMend.Pattern
import SourceMend.Shell.Process

/-!
# Searching for lines

`grep` selects the lines of files that hold a match of an expression.  Its
expressions come in three forms.  In the *basic* form, parentheses, braces, bars,
plus and question signs have a meaning after a backslash only, and in the
*extended* form without one.  In the *fixed* form no character has a meaning.
`patternOf` writes each form as a pattern.
-/

namespace SourceMend.Shell.Search

/-- How an expression is written. -/
inductive Form where
  /-- Operators need a backslash. -/
  | basic
  /-- Operators stand for themselves. -/
  | extended
  /-- There are no operators. -/
  | fixed
  deriving DecidableEq, Repr

/-- What is searched for and what is shown. -/
structure Options where
  /-- How the expression is written. -/
  form : Form := .basic
  /-- Whether case does not count. -/
  ignoreCase : Bool := false
  /-- Whether the lines without a match are selected. -/
  inverted : Bool := false
  /-- Whether a match has to be a whole line. -/
  wholeLine : Bool := false
  /-- Whether nothing is shown. -/
  quiet : Bool := false
  /-- Whether only the number of lines is shown. -/
  count : Bool := false
  /-- Whether the numbers of lines are shown. -/
  numbers : Bool := false
  /-- Whether only the names of files are shown. -/
  names : Bool := false
  deriving DecidableEq, Repr

/-- The options after a letter. -/
def Options.letter? (o : Options) (c : Char) : Option Options :=
  match c with
  | 'E' => some { o with form := .extended }
  | 'F' => some { o with form := .fixed }
  | 'G' => some { o with form := .basic }
  | 'i' => some { o with ignoreCase := true }
  | 'v' => some { o with inverted := true }
  | 'x' => some { o with wholeLine := true }
  | 'q' => some { o with quiet := true }
  | 'c' => some { o with count := true }
  | 'n' => some { o with numbers := true }
  | 'l' => some { o with names := true }
  | 's' => some o
  | 'h' => some o
  | _ => none

/-! ## Expressions -/

/-- A character without a meaning, as a part of a pattern. -/
def literal (c : Char) : Text :=
  if "\\.+*?()|[]\x7b\x7d^$#&-~".toList.contains c then ['\\', c] else [c]

/-- The characters of a set between brackets after the first, and what follows the set. -/
def readSet : Text → Option (Text × Text)
  | [] => none
  | ']' :: r => some ([']'], r)
  | '[' :: ':' :: r => (readSet r).map fun p => ('[' :: ':' :: p.1, p.2)
  | ':' :: ']' :: r => (readSet r).map fun p => (':' :: ']' :: p.1, p.2)
  | c :: r =>
    let s := if "\\[&~".toList.contains c then ['\\', c] else [c]
    (readSet r).map fun p => (s ++ p.1, p.2)

/-- A set after its opening bracket, and what follows it.  A closing bracket in the first place is
a member. -/
def readBracket (r : Text) : Option (Text × Text) :=
  let (start, r) := match r with
    | '^' :: r => (['[', '^'], r)
    | r => (['['], r)
  match r with
  | ']' :: r => (readSet r).map fun p => (start ++ ['\\', ']'] ++ p.1, p.2)
  | r => (readSet r).map fun p => (start ++ p.1, p.2)

/-- Whether a basic expression may end here. -/
def atEnd : Text → Bool
  | [] => true
  | '\\' :: ')' :: _ => true
  | '\\' :: '|' :: _ => true
  | _ => false

/-- An expression with operators as a pattern.  `first` tells that it starts here.  Every part
takes a character away. -/
def patternFrom (form : Form) : (fuel : Nat) → (first : Bool) → Text → Option Text
  | 0, _, _ => none
  | _, _, [] => some []
  | fuel + 1, first, c :: r =>
    if c = '[' then do
      let (s, rest) ← readBracket r
      return s ++ (← patternFrom form fuel false rest)
    else if c = '\\' then
      match r with
      | [] => none
      | d :: rest =>
        let isOperator := "(){}|+?".toList.contains d
        let s :=
          if isOperator then (if form = .basic then [d] else ['\\', d])
          else if d = '<' || d = '>' then ['\\', 'b']
          else if "wWsSbB".toList.contains d then ['\\', d]
          else literal d
        (patternFrom form fuel (isOperator && (d = '(' || d = '|')) rest).map (s ++ ·)
    else
      let plain :=
        form = .basic && ("(){}|+?".toList.contains c || (c = '*' && first)
          || (c = '^' && !first) || (c = '$' && !atEnd r))
      let s := if plain || c = '#' then literal c else [c]
      (patternFrom form fuel (c = '^' && first) r).map (s ++ ·)

/-- An expression as a pattern.  The lines of an expression are alternatives. -/
def patternOf (o : Options) (expression : Text) : Option String := do
  let parts ← (Text.pieces '\n' expression).mapM fun s =>
    if o.form = .fixed then some (s.flatMap literal) else patternFrom o.form (s.length + 1) true s
  let either := Text.join ['|'] (parts.map fun s => "(?:".toList ++ s ++ [')'])
  let whole := if o.wholeLine then "^(?:".toList ++ either ++ ")$".toList else either
  return .ofList ((if o.ignoreCase then "(?i)".toList else []) ++ whole)

/-! ## Lines -/

/-- Bytes cut after every line feed, without the line feeds.  Nothing after the last one is no
line. -/
def linesFrom (line : ByteArray) : List UInt8 → List ByteArray
  | [] => if line.isEmpty then [] else [line]
  | b :: r => if b = 10 then line :: linesFrom .empty r else linesFrom (line.push b) r

/-- The lines of some bytes. -/
def lines (bytes : ByteArray) : List ByteArray := linesFrom .empty bytes.toList

/-- The selected lines with their numbers. -/
def select (o : Options) (p : Pattern) (bytes : ByteArray) : List (Nat × ByteArray) :=
  let numbered := (lines bytes).zipIdx 1
  let kept := numbered.filter fun l =>
    (p.matches (Text.Utf8.decodeLossy l.1).toList).isEmpty == o.inverted
  kept.map fun l => (l.2, l.1)

/-- What is shown of the selected lines of a file, after `label`. -/
def shown (o : Options) (name label : String) (found : List (Nat × ByteArray)) : ByteArray :=
  if o.quiet then .empty
  else if o.names then (if found.isEmpty then .empty else (name ++ "\n").toUTF8)
  else if o.count then (label ++ toString found.length ++ "\n").toUTF8
  else
    found.foldl (fun acc l =>
      let start := label ++ (if o.numbers then toString l.1 ++ ":" else "")
      acc ++ start.toUTF8 ++ l.2 ++ "\n".toUTF8) .empty

end SourceMend.Shell.Search
