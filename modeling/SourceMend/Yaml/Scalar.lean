import SourceMend.Yaml.Cursor

/-!
# Texts of YAML

A text is written plainly, between quotes, or as an indented block after a
header.  Plain and quoted texts may go over several lines, and then the line
ends are folded.  A block keeps its line ends, or folds them if its header says
so.
-/

namespace SourceMend.Yaml

/-- How a text is written. -/
inductive Style where
  /-- Without quotes. -/
  | plain
  /-- Between single or double quotes. -/
  | quoted
  /-- As a block that keeps its line ends. -/
  | literal
  /-- As a block that folds its line ends. -/
  | folded
  deriving DecidableEq, Repr

/-! ## Plain texts -/

/-- A bracket or comma that ends a plain text inside brackets. -/
def isFlowMark (c : Char) : Bool :=
  c = ',' || c = '[' || c = ']' || c = '\x7b' || c = '\x7d'

/-- The plain characters at the start of a text, and the rest.  `flow` tells whether the text is
inside brackets. -/
def plainWord (flow : Bool) : Text → Except String (Text × Text)
  | [] => .ok ([], [])
  | c :: r =>
    let next := r.head?
    if isBlank c || isBreak c then .ok ([], c :: r)
    else if flow && c = ':' && next.any fun n => isFlowMark n || n = '?' then
      .error "unexpected colon"
    else if c = ':' && atGap r then .ok ([], c :: r)
    else if flow && isFlowMark c then .ok ([], c :: r)
    else (plainWord flow r).map fun p => (c :: p.1, p.2)

/-- A plain text that goes on at a cursor after `taken` and a gap.  It ends before the column
`indent`.  The result has the gap that was read last. -/
def plain (flow : Bool) (indent : Nat) :
    (fuel : Nat) → (taken : Text) → Gap → Cursor → Except String (Text × Gap × Cursor)
  | 0, taken, g, c => .ok (taken, g, c)
  | fuel + 1, taken, g, c =>
    if c.atMark || c.rest.head? == some '#' then .ok (taken, g, c)
    else do
      let (w, rest) ← plainWord flow c.rest
      let c := c.jump rest
      let (taken, g) := if w.isEmpty then (taken, g) else (taken ++ g.text ++ w, {})
      if rest.isEmpty || !atGap rest then return (taken, g, c)
      let (g, c) ← g.scan indent c.rest.length c
      if !flow && c.column < indent then return (taken, g, c)
      plain flow indent fuel taken g c

/-! ## Quoted texts -/

/-- The single-quoted characters at the start of a text, and the rest.  A quote is written twice. -/
def singleWord : Text → Text × Text
  | [] => ([], [])
  | '\'' :: '\'' :: r => (singleWord r).map ('\'' :: ·) id
  | c :: r =>
    if c = '\'' || isBlank c || isBreak c then ([], c :: r) else (singleWord r).map (c :: ·) id

/-- The character of an escape with one letter. -/
def simpleEscape? : Char → Option Char
  | '0' => some '\x00'
  | 'a' => some '\x07'
  | 'b' => some '\x08'
  | 't' => some '\t'
  | '\t' => some '\t'
  | 'n' => some '\n'
  | 'v' => some '\x0B'
  | 'f' => some '\x0C'
  | 'r' => some '\r'
  | 'e' => some '\x1B'
  | ' ' => some ' '
  | '"' => some '"'
  | '/' => some '/'
  | '\\' => some '\\'
  | 'N' => some '\u0085'
  | '_' => some '\u00A0'
  | 'L' => some '\u2028'
  | 'P' => some '\u2029'
  | _ => none

/-- The number of hexadecimal digits of an escape with a code point. -/
def pointDigits? : Char → Option Nat
  | 'x' => some 2
  | 'u' => some 4
  | 'U' => some 8
  | _ => none

/-- The character of the escape at the start of a text, and the number of characters that it takes
after the backslash. -/
def escape? : Text → Option (Char × Nat)
  | [] => none
  | c :: r =>
    match simpleEscape? c, pointDigits? c with
    | some e, _ => some (e, 1)
    | none, some n =>
      (Text.digits 16 (r.take n)).bind fun p =>
        if n ≤ r.length ∧ (p < 0xD800 ∨ (0xDFFF < p ∧ p < 0x110000)) then
          some (Char.ofNat p, n + 1)
        else none
    | none, none => none

/-- The double-quoted characters at the start of a text, and the rest.  `skip` characters belong to
an escape that has been read.  A backslash before a line end is left to the caller. -/
def doubleWord (skip : Nat) : Text → Except String (Text × Text)
  | [] => .ok ([], [])
  | c :: r =>
    if 0 < skip then doubleWord (skip - 1) r
    else if c = '"' || isBlank c || isBreak c then .ok ([], c :: r)
    else if c = '\\' then
      if r.head?.any isBreak then .ok ([], c :: r)
      else
        match escape? r with
        | some (e, n) => (doubleWord n r).map fun p => (e :: p.1, p.2)
        | none => .error "invalid escape"
    else (doubleWord 0 r).map fun p => (c :: p.1, p.2)

/-- The quoted characters at the start of a text, and the rest. -/
def quotedWord (q : Char) (s : Text) : Except String (Text × Text) :=
  if q = '\'' then .ok (singleWord s) else doubleWord 0 s

/-- A quoted text that goes on at a cursor after `taken`, and the cursor after its closing quote. -/
def quoted (q : Char) : (fuel : Nat) → (taken : Text) → Cursor → Except String (Text × Cursor)
  | 0, _, _ => .error "unclosed quoted text"
  | fuel + 1, taken, c =>
    if c.atMark then .error "unexpected document mark"
    else do
      let (w, rest) ← quotedWord q c.rest
      let taken := taken ++ w
      let c := c.jump rest
      match rest with
      | [] => throw "unclosed quoted text"
      | '\\' :: _ => do
        let c := (c.skip 1).nextLine
        if c.rest.head? == some q then return (taken, c.skip 1)
        let (g, c) ← Gap.scan 0 c.rest.length { escaped := true } c
        quoted q fuel (taken ++ g.text) c
      | x :: _ =>
        if x = q then return (taken, c.skip 1)
        let (g, c) ← Gap.scan 0 c.rest.length {} c
        quoted q fuel (taken ++ g.text) c

/-! ## Blocks -/

/-- What happens to the line ends at the end of a block. -/
inductive Chomp where
  /-- All are dropped. -/
  | strip
  /-- The first is kept. -/
  | clip
  /-- All are kept. -/
  | keep
  deriving DecidableEq, Repr

/-- The chomping that a character of a header stands for. -/
def Chomp.ofChar? : Char → Option Chomp
  | '-' => some .strip
  | '+' => some .keep
  | _ => none

/-- The indentation that a character of a header stands for. -/
def blockIndent? (c : Char) : Option Nat := if '1' ≤ c ∧ c ≤ '9' then some (c.toNat - 48) else none

/-- The chomping and the indentation in the header of a block, and the rest. -/
def blockHeader (s : Text) : Chomp × Option Nat × Text :=
  match s with
  | a :: r =>
    match Chomp.ofChar? a, blockIndent? a with
    | some ch, _ =>
      match r with
      | b :: r' =>
        match blockIndent? b with
        | some n => (ch, some n, r')
        | none => (ch, none, r)
      | [] => (ch, none, r)
    | none, some n =>
      match r with
      | b :: r' =>
        match Chomp.ofChar? b with
        | some ch => (ch, some n, r')
        | none => (.clip, some n, r)
      | [] => (.clip, some n, r)
    | none, none => (.clip, none, s)
  | [] => (.clip, none, s)

/-- The empty lines at a cursor, the column of the widest indentation among them and after them, and
the cursor after them.  With a limit, no more columns are taken for indentation. -/
def emptyLines (limit : Option Nat) :
    (fuel : Nat) → (widest : Nat) → (breaks : Text) → Cursor →
      Except String (Text × Nat × Cursor)
  | 0, widest, breaks, c => .ok (breaks, widest, c)
  | fuel + 1, widest, breaks, c =>
    let spaces := (c.rest.takeWhile (· = ' ')).length
    let n := match limit with
      | some l => min spaces (l - c.column)
      | none => spaces
    let c := c.skip n
    let widest := max widest c.column
    match c.rest with
    | [] => .ok (breaks, widest, c)
    | x :: _ =>
      if x = '\t' && limit.all fun l => c.column < l then .error "a tab where blanks are expected"
      else if isBreak x then emptyLines limit fuel widest (breaks ++ [c.lineEnd]) c.nextLine
      else .ok (breaks, widest, c)

/-- The lines of a block that goes on at a cursor.  `lastBreak` and `breaks` are the line ends
before it, and `lastBlank` tells whether the line before starts with a blank. -/
def blockLines (keeps : Bool) (chomp : Chomp) (indent : Nat) :
    (fuel : Nat) → (taken : Text) → (lastBreak breaks : Text) → (lastBlank : Bool) → Cursor →
      Except String (Text × Cursor)
  | 0, taken, _, _, _, c => .ok (taken, c)
  | fuel + 1, taken, lastBreak, breaks, lastBlank, c =>
    if c.column = indent && !c.rest.isEmpty then do
      let blank := c.rest.head?.any isBlank
      let folds := !keeps && lastBreak == ['\n'] && !lastBlank && !blank
      let between :=
        if folds then (if breaks.isEmpty then [' '] else breaks) else lastBreak ++ breaks
      let (line, rest) := c.rest.span (!isBreak ·)
      let c := c.jump rest
      let (lastBreak, c) := if rest.isEmpty then ([], c) else ([c.lineEnd], c.nextLine)
      let (breaks, _, c) ← emptyLines (some indent) (c.rest.length + 1) 0 [] c
      blockLines keeps chomp indent fuel (taken ++ between ++ line) lastBreak breaks blank c
    else
      let tail := match chomp with
        | .strip => []
        | .clip => lastBreak
        | .keep => lastBreak ++ breaks
      .ok (taken ++ tail, c)

/-- The block whose header is at a cursor.  `parent` is the column of the value that it belongs to,
`-1` if there is none. -/
def block (keeps : Bool) (parent : Int) (c : Cursor) : Except String (Text × Cursor) := do
  let (chomp, wanted, rest) := blockHeader c.rest
  let c := ((c.jump rest).skipBlanks).skipComment
  let c ← match c.rest with
    | [] => pure c
    | x :: _ => if isBreak x then pure c.nextLine else throw "expected the end of the line"
  let least := (parent + 1).toNat
  let fixed := wanted.map fun n => (max parent 0).toNat + n
  let (breaks, widest, c) ← emptyLines fixed (c.rest.length + 1) 0 [] c
  let indent := fixed.getD (max 1 (max widest least))
  blockLines keeps chomp indent (c.rest.length + 1) [] [] breaks false c

end SourceMend.Yaml
