import SourceMend.Pattern.Error
import SourceMend.Pattern.Expr
import SourceMend.Text.Cut
import SourceMend.Unicode.CaseFold
import SourceMend.Unicode.Property

/-!
# Flags and escapes

The flags in force decide what a character, a set or an assertion of a pattern
means.  `escape` reads what follows a backslash: a character, a set of
characters or an assertion.  With the extended flag, blanks and comments between
the parts of a pattern do not count, and `skipIdle` passes over them.
-/

namespace SourceMend.Pattern

/-! ## Flags -/

/-- What can be switched on and off inside a pattern. -/
structure Flags where
  /-- Characters that differ only in case match each other. -/
  ignoreCase : Bool := false
  /-- `^` and `$` stand for the ends of lines and not of the text. -/
  multiLine : Bool := false
  /-- `.` matches the end of a line too. -/
  dotAll : Bool := false
  /-- Repetitions are greedy only when they are marked. -/
  swapGreed : Bool := false
  /-- Characters are those of Unicode and not of ASCII. -/
  unicode : Bool := true
  /-- A carriage return ends a line too. -/
  anyLineEnd : Bool := false
  /-- Blanks and comments do not count. -/
  extended : Bool := false
  deriving DecidableEq, Repr

namespace Flags

/-- The flags with the one of a letter switched on or off, if the letter is one. -/
def switch? (f : Flags) (letter : Char) (on : Bool) : Option Flags :=
  match letter with
  | 'i' => some { f with ignoreCase := on }
  | 'm' => some { f with multiLine := on }
  | 's' => some { f with dotAll := on }
  | 'U' => some { f with swapGreed := on }
  | 'u' => some { f with unicode := on }
  | 'R' => some { f with anyLineEnd := on }
  | 'x' => some { f with extended := on }
  | _ => none

/-- A set closed under case if case does not count, and then negated if it is to be. -/
def adjust (f : Flags) (negated : Bool) (s : CharSet) : Except Error CharSet := do
  if f.unicode then
    let s := if f.ignoreCase then s.closeCase else s
    return if negated then s.complement else s
  else
    let s := if f.ignoreCase then s.closeAsciiCase else s
    let s := if negated then s.complement else s
    if s.isAscii then return s else throw .asciiOnly

/-- The words of word edges. -/
def words (f : Flags) : CharSet :=
  if f.unicode then Unicode.wordChars else Unicode.asciiWordChars

/-- What `^` stands for. -/
def startLook (f : Flags) : Look :=
  if f.multiLine then (if f.anyLineEnd then .anyLineStart else .lineStart) else .textStart

/-- What `$` stands for. -/
def endLook (f : Flags) : Look :=
  if f.multiLine then (if f.anyLineEnd then .anyLineEnd else .lineEnd) else .textEnd

/-- What `.` stands for. -/
def dot (f : Flags) : Except Error CharSet :=
  if !f.unicode then .error .asciiOnly
  else if f.dotAll then .ok .all
  else .ok (CharSet.ofChars (if f.anyLineEnd then ['\r', '\n'] else ['\n'])).complement

end Flags

/-! ## Blanks and comments -/

/-- What follows blanks and comments. -/
def dropIdle (inComment : Bool) : Text → Text
  | [] => []
  | c :: r =>
    if inComment then dropIdle (c != '\n') r
    else if Text.isBlank c then dropIdle false r
    else if c = '#' then dropIdle true r
    else c :: r

/-- What follows blanks and comments, if these do not count. -/
def Flags.skipIdle (f : Flags) (s : Text) : Text := if f.extended then dropIdle false s else s

/-- The first character of a text after the blanks, and one comment sign among them, that do not
count. -/
def Flags.peek? (f : Flags) (s : Text) : Option Char :=
  if !f.extended then s.head?
  else
    let after :=
      match s.dropWhile Text.isBlank with
      | '#' :: r => r.dropWhile Text.isBlank
      | r => r
    after.head? <|> s.head?

/-! ## Escapes -/

/-- A smallest part of a pattern. -/
inductive Atom where
  /-- A character.  `asByte` tells that it is written as a byte, with two digits. -/
  | char (c : Char) (asByte : Bool)
  /-- A set of characters. -/
  | set (s : CharSet)
  /-- An assertion. -/
  | look (l : Look)

/-- Characters with a meaning of their own, which a backslash takes away. -/
def metaChars : List Char := "\\.+*?()|[]\x7b\x7d^$#&-~".toList

/-- Whether a backslash before a character gives the character itself. -/
def isPlainAfterBackslash (c : Char) : Bool :=
  metaChars.contains c || (c.toNat < 128 && !c.isAlphanum && c != '<' && c != '>')

/-- The character of a control escape. -/
def controlChar? (c : Char) : Option Char :=
  match c with
  | 'a' => some '\x07'
  | 'f' => some '\x0C'
  | 't' => some '\t'
  | 'n' => some '\n'
  | 'r' => some '\r'
  | 'v' => some '\x0B'
  | _ => none

/-- The character of a code point in hexadecimal. -/
def hexChar? (digits : Text) : Option Char := do
  let n ← Text.digits 16 digits
  if n.isValidChar then some (Char.ofNat n) else none

/-- Whether a character is a hexadecimal digit. -/
def isHexDigit (c : Char) : Bool := (Text.digitIn? 16 c).isSome

/-- `count` hexadecimal digits, and what follows them. -/
def takeHex (f : Flags) : Nat → Text → Except Error (Text × Text)
  | 0, s => .ok ([], s)
  | _ + 1, [] => .error .codePoint
  | n + 1, c :: r =>
    if isHexDigit c then
      (takeHex f n (if n = 0 then r else f.skipIdle r)).map fun p => (c :: p.1, p.2)
    else .error .codePoint

/-- The characters up to a closing brace, idle ones left out, and what follows the brace. -/
def takeBraced (f : Flags) (fuel : Nat) (s : Text) : Except Error (Text × Text) :=
  match fuel, f.skipIdle s with
  | 0, _ => .error .escape
  | _, [] => .error .escape
  | _, '\x7d' :: r => .ok ([], r)
  | fuel + 1, c :: r => (takeBraced f fuel r).map fun p => (c :: p.1, p.2)

/-- The code point after `\x`, `\u` or `\U`, in braces or with `width` digits. -/
def codePoint (f : Flags) (width : Nat) (s : Text) : Except Error (Atom × Text) :=
  match f.skipIdle s with
  | [] => .error .escape
  | '\x7b' :: r => do
    let (ds, rest) ← takeBraced f (r.length + 1) r
    match hexChar? ds with
    | some c => return (.char c false, f.skipIdle rest)
    | none => throw .codePoint
  | s => do
    let (ds, rest) ← takeHex f width s
    match hexChar? ds with
    | some c => return (.char c (width == 2), f.skipIdle rest)
    | none => throw .codePoint

/-- The set of a property as it is written between braces. -/
def propertySet? (name : Text) : Option CharSet :=
  let valued (p v : Text) := Unicode.valued? (Unicode.canonicalName p) (Unicode.canonicalName v)
  match Text.cutAt ['!', '='] name with
  | some (p, v) => (valued p v).map CharSet.complement
  | none =>
    match Text.cutAt [':'] name, Text.cutAt ['='] name with
    | some (p, v), _ => valued p v
    | none, some (p, v) => valued p v
    | none, none => Unicode.named? (Unicode.canonicalName name)

/-- The name of a property after `\p` or `\P`: in braces, or a single letter. -/
def propertyName (f : Flags) (s : Text) : Except Error (Text × Text) :=
  match f.skipIdle s with
  | [] => .error .escape
  | '\x7b' :: r => takeBraced f (r.length + 1) r
  | '\\' :: _ => .error .property
  | c :: r => .ok ([c], f.skipIdle r)

/-- The set of a property after `\p`, or what it leaves out after `\P`. -/
def property (f : Flags) (negated : Bool) (s : Text) : Except Error (Atom × Text) := do
  let (name, rest) ← propertyName f s
  if !f.unicode then throw .asciiOnly
  match propertySet? name with
  | some set => return (.set (← f.adjust negated set), rest)
  | none => throw .property

/-- The set that a letter abbreviates: digits, blanks or words. -/
def shorthand? (f : Flags) (c : Char) : Option CharSet :=
  match c with
  | 'd' => some (if f.unicode then Unicode.digits else Unicode.asciiDigits)
  | 's' => some (if f.unicode then Unicode.blanks else Unicode.asciiBlanks)
  | 'w' => some f.words
  | _ => none

/-- Whether a character can stand in the name of a word edge. -/
def isEdgeLetter (c : Char) : Bool := c.isAlpha || c == '-'

/-- The word edge of a name. -/
def edgeNamed? (name : Text) : Option WordEdge :=
  if name = "start".toList then some .start
  else if name = "end".toList then some .stop
  else if name = "start-half".toList then some .halfStart
  else if name = "end-half".toList then some .halfStop
  else none

/-- The letters of the name of a word edge, idle characters left out, and what follows. -/
def takeEdge (f : Flags) (fuel : Nat) (s : Text) : Text × Text :=
  match fuel, s with
  | fuel + 1, c :: r =>
    if isEdgeLetter c then
      let (name, rest) := takeEdge f fuel (f.skipIdle r)
      (c :: name, rest)
    else ([], c :: r)
  | _, s => ([], s)

/-- The word edge after `\b`: named in braces, or plain.  Braces that do not start with a letter
belong to a repetition. -/
def boundary (f : Flags) (s : Text) : Except Error (Atom × Text) :=
  let plain := (Atom.look (.word .boundary f.words), s)
  match s with
  | '\x7b' :: r =>
    match f.skipIdle r with
    | [] => .error .wordEdge
    | c :: r =>
      if isEdgeLetter c then
        match takeEdge f (r.length + 1) (c :: r) with
        | (name, '\x7d' :: rest) =>
          match edgeNamed? name with
          | some e => .ok (.look (.word e f.words), rest)
          | none => .error .wordEdge
        | _ => .error .wordEdge
      else .ok plain
  | _ => .ok plain

/-- What follows a backslash. -/
def escape (f : Flags) : Text → Except Error (Atom × Text)
  | [] => .error .escape
  | c :: r =>
    match c with
    | 'x' => codePoint f 2 r
    | 'u' => codePoint f 4 r
    | 'U' => codePoint f 8 r
    | 'p' => property f false r
    | 'P' => property f true r
    | 'A' => .ok (.look .textStart, r)
    | 'z' => .ok (.look .textEnd, r)
    | 'b' => boundary f r
    | 'B' => .ok (.look (.word .inside f.words), r)
    | '<' => .ok (.look (.word .start f.words), r)
    | '>' => .ok (.look (.word .stop f.words), r)
    | c =>
      match shorthand? f c, shorthand? f c.toLower, controlChar? c with
      | some s, _, _ => .ok (.set s, r)
      | none, some s, _ =>
        if f.unicode then .ok (.set s.complement, r) else .error .asciiOnly
      | none, none, some x => .ok (.char x false, r)
      | none, none, none =>
        if isPlainAfterBackslash c then .ok (.char c false, r) else .error .escape

end SourceMend.Pattern
