import SourceMend.Yaml.Scalar

/-!
# Tokens of YAML

`tokens` cuts a text into tokens.  Indentation becomes tokens as well: a block
list or record starts where a line is indented further than what is open, and
ends where a line is indented less.

A record in block style shows only at the colon after its first key.  So every
place where a key could start is remembered, one for each open bracket and one
outside.  When the colon comes on the same line, the tokens that open the record
and mark the key are put in front of the key.
-/

namespace SourceMend.Yaml

/-- A piece of a text. -/
inductive Token where
  /-- A line that tells the version of the format. -/
  | version
  /-- A line that defines a short form for tags. -/
  | tagForm (handle start : String)
  /-- The mark of a document's start. -/
  | documentStart
  /-- The mark of a document's end. -/
  | documentEnd
  /-- The start of a list in block style. -/
  | listStart
  /-- The start of a record in block style. -/
  | recordStart
  /-- The end of a list or record in block style. -/
  | blockEnd
  /-- An opening bracket. -/
  | openList
  /-- A closing bracket. -/
  | closeList
  /-- An opening brace. -/
  | openRecord
  /-- A closing brace. -/
  | closeRecord
  /-- A comma. -/
  | comma
  /-- The hyphen before an element. -/
  | item
  /-- The start of a key. -/
  | key
  /-- The colon before a value. -/
  | value
  /-- A reference to an anchor. -/
  | alias (name : String)
  /-- An anchor. -/
  | anchor (name : String)
  /-- A tag, as the short form and what follows it. -/
  | tag (handle suffix : String)
  /-- A text. -/
  | scalar (style : Style) (s : Text)
  deriving DecidableEq, Repr

/-- A place where a key may have started. -/
structure KeyPlace where
  /-- The number of tokens before it. -/
  token : Nat
  /-- Where it is. -/
  place : Cursor
  /-- Whether nothing but a key can stand there. -/
  required : Bool

/-- What has been read of a text. -/
structure Scan where
  /-- What is left. -/
  cursor : Cursor
  /-- The tokens. -/
  tokens : Array Token := #[]
  /-- The column of the innermost block, `-1` if there is none. -/
  indent : Int := -1
  /-- The columns of the blocks around it. -/
  outer : List Int := []
  /-- Whether a key may start here. -/
  keyAllowed : Bool := true
  /-- Where a key may have started, by open bracket, the innermost first. -/
  places : List (Option KeyPlace) := [none]

namespace Scan

/-- The result of reading a token. -/
abbrev Result := Except String Scan

/-! ## Blocks and keys -/

/-- Whether a bracket is open. -/
def inFlow (s : Scan) : Bool := 1 < s.places.length

/-- The scan with one more token. -/
def push (s : Scan) (t : Token) : Scan := { s with tokens := s.tokens.push t }

/-- The scan with a token put before the token number `n`. -/
def putAt (s : Scan) (n : Nat) (t : Token) : Scan :=
  { s with tokens := s.tokens.extract 0 n ++ #[t] ++ s.tokens.extract n s.tokens.size }

/-- The scan with a block at a column, opened by `t` before the token number `n`, if the column is
further right than the innermost block. -/
def openBlock (s : Scan) (column n : Nat) (t : Token) : Scan :=
  if !s.inFlow && s.indent < column then
    { s.putAt n t with indent := column, outer := s.indent :: s.outer }
  else s

/-- The scan without the blocks that are further right than a column. -/
def closeBlocks (column : Int) : List Int → Scan → Scan
  | [], s => s
  | i :: is, s =>
    if column < s.indent then
      closeBlocks column is { s.push .blockEnd with indent := i, outer := is }
    else s

/-- The scan without the blocks that are further right than a column, outside brackets. -/
def closeTo (s : Scan) (column : Int) : Scan :=
  if s.inFlow then s else closeBlocks column s.outer s

/-- What is said of a key without a colon. -/
def missingColon : String := "could not find the expected colon"

/-- The most characters that a key in front of its colon may have. -/
def keyLimit : Nat := 1024

/-- Whether a key that started at a place can still end at a cursor. -/
def inReach (c : Cursor) (k : KeyPlace) : Bool :=
  c.line ≤ k.place.line && c.index ≤ k.place.index + keyLimit

/-- A place where a key may have started, forgotten when a colon would come too late. -/
def refresh (c : Cursor) (k : Option KeyPlace) : Except String (Option KeyPlace) :=
  match k with
  | none => .ok none
  | some k =>
    if inReach c k then .ok (some k)
    else if k.required then .error missingColon
    else .ok none

/-- The scan without places that are too far back. -/
def refreshKeys (s : Scan) : Result := do
  return { s with places := ← s.places.mapM (refresh s.cursor) }

/-- The scan without a place where a key may have started. -/
def dropKey (s : Scan) : Result :=
  match s.places with
  | some k :: ks => if k.required then .error missingColon else .ok { s with places := none :: ks }
  | _ => .ok s

/-- The scan with the cursor as a place where a key may start, if keys are allowed. -/
def saveKey (s : Scan) : Result :=
  if s.keyAllowed then do
    let s ← s.dropKey
    let k : KeyPlace :=
      ⟨s.tokens.size, s.cursor, !s.inFlow && s.indent = (s.cursor.column : Int)⟩
    return { s with places := some k :: s.places.tail }
  else .ok s

/-! ## Between tokens -/

/-- The scan at the next token, after blanks, comments and line ends. -/
def skipSpace : (fuel : Nat) → Scan → Scan
  | 0, s => s
  | fuel + 1, s =>
    let c := s.cursor
    match c.rest with
    | [] => s
    | x :: _ =>
      if x = '\uFEFF' ∧ c.column = 0 then skipSpace fuel { s with cursor := c.skip 1 }
      else if x = ' ' ∨ (x = '\t' ∧ (s.inFlow ∨ !s.keyAllowed)) then
        skipSpace fuel { s with cursor := c.skip 1 }
      else if x = '#' then skipSpace fuel { s with cursor := c.skipComment }
      else if isBreak x then
        skipSpace fuel
          { s with cursor := c.nextLine, keyAllowed := s.keyAllowed || !s.inFlow }
      else s

/-! ## Marks -/

/-- The scan after a mark of `n` characters. -/
def take (s : Scan) (n : Nat) (t : Token) (keyAllowed : Bool) : Scan :=
  { s.push t with cursor := s.cursor.skip n, keyAllowed }

/-- After the mark of a document's start or end. -/
def documentMark (s : Scan) (t : Token) : Result := do
  return (← (s.closeTo (-1)).dropKey).take 3 t false

/-- After an opening bracket or brace. -/
def openFlow (s : Scan) (t : Token) : Result := do
  let s ← s.saveKey
  return { s with places := none :: s.places }.take 1 t true

/-- After a closing bracket or brace. -/
def closeFlow (s : Scan) (t : Token) : Result := do
  let s ← s.dropKey
  return { s with places := if s.inFlow then s.places.tail else s.places }.take 1 t false

/-- After a comma. -/
def comma (s : Scan) : Result := do return (← s.dropKey).take 1 .comma true

/-- After the hyphen before an element. -/
def item (s : Scan) : Result := do
  if !s.inFlow && !s.keyAllowed then throw "a list cannot start here"
  let s := s.openBlock s.cursor.column s.tokens.size .listStart
  return (← s.dropKey).take 1 .item true

/-- After the question mark before a key. -/
def explicitKey (s : Scan) : Result := do
  if !s.inFlow && !s.keyAllowed then throw "a key cannot start here"
  let s := s.openBlock s.cursor.column s.tokens.size .recordStart
  return (← s.dropKey).take 1 .key (!s.inFlow)

/-- After the colon before a value. -/
def value (s : Scan) : Result :=
  match s.places with
  | some k :: ks =>
    let s := (s.putAt k.token .key).openBlock k.place.column k.token .recordStart
    .ok ({ s with places := none :: ks }.take 1 .value false)
  | _ =>
    if s.inFlow then .ok (s.take 1 .value false)
    else if s.keyAllowed then
      .ok ((s.openBlock s.cursor.column s.tokens.size .recordStart).take 1 .value true)
    else .error "a value cannot stand here"

/-! ## Names and tags -/

/-- After a reference or an anchor with a name. -/
def named (s : Scan) (make : String → Token) : Result := do
  let s ← s.saveKey
  let (name, rest) := (s.cursor.rest.drop 1).span isNameChar
  let ends := atGap rest || rest.head?.any fun c => "?:,]\x7d%@`".toList.contains c
  if name.isEmpty || !ends then throw "expected a name"
  return { s.push (make (.ofList name)) with cursor := s.cursor.jump rest, keyAllowed := false }

/-- Whether a character may stand in a tag. -/
def isTagChar (c : Char) : Bool := isNameChar c || ";/?:@&=+$.!~*'()%".toList.contains c

/-- Whether a character may stand in a tag between angle brackets. -/
def isLongTagChar (c : Char) : Bool := isTagChar c || c = ',' || c = '[' || c = ']'

/-- The short form and the suffix of the tag at the start of a text, and the rest. -/
def tagParts (s : Text) : Except String (String × String × Text) :=
  match s with
  | '!' :: '<' :: r =>
    match r.span isLongTagChar with
    | (u :: us, '>' :: rest) => .ok ("", .ofList (u :: us), rest)
    | _ => .error "invalid tag"
  | _ =>
    let (name, r) := (s.drop 1).span isNameChar
    match r with
    | '!' :: r =>
      match r.span isTagChar with
      | ([], _) => .error "invalid tag"
      | (suffix, rest) => .ok (.ofList ('!' :: name ++ ['!']), .ofList suffix, rest)
    | r =>
      let (more, rest) := r.span isTagChar
      let suffix := name ++ more
      if suffix.isEmpty then .ok ("", "!", rest) else .ok ("!", .ofList suffix, rest)

/-- After a tag. -/
def tag (s : Scan) : Result := do
  let s ← s.saveKey
  let (handle, suffix, rest) ← tagParts s.cursor.rest
  if !atGap rest && !(s.inFlow && rest.head? == some ',') then throw "invalid tag"
  return { s.push (.tag handle suffix) with cursor := s.cursor.jump rest, keyAllowed := false }

/-! ## Directives -/

/-- The words of a line up to a comment. -/
def words (s : Text) : List Text :=
  let ws := ((s.takeWhile (!isBreak ·)).splitOn ' ').filter (!·.isEmpty)
  ws.takeWhile fun w => w.head? != some '#'

/-- Whether a text is a version of the format that can be read. -/
def isKnownVersion (w : Text) : Bool := w = "1.1".toList || w = "1.2".toList

/-- After a directive. -/
def directive (s : Scan) : Result := do
  let s ← (s.closeTo (-1)).dropKey
  let t ← match words s.cursor.rest with
    | [name, w] =>
      if name = "%YAML".toList ∧ isKnownVersion w then pure Token.version
      else throw "invalid directive"
    | [name, handle, start] =>
      if name = "%TAG".toList then pure (Token.tagForm (.ofList handle) (.ofList start))
      else throw "invalid directive"
    | _ => throw "invalid directive"
  return { s.push t with
    cursor := s.cursor.jump (s.cursor.rest.dropWhile (!isBreak ·)), keyAllowed := false }

/-! ## Texts -/

/-- After a block. -/
def blockText (s : Scan) (keeps : Bool) : Result := do
  let s ← s.dropKey
  let (t, c) ← block keeps s.indent (s.cursor.skip 1)
  return { s.push (.scalar (if keeps then .literal else .folded) t) with
    cursor := c, keyAllowed := true }

/-- After a quoted text. -/
def quotedText (s : Scan) (q : Char) : Result := do
  let s ← s.saveKey
  let (t, c) ← quoted q (s.cursor.rest.length + 1) [] (s.cursor.skip 1)
  return { s.push (.scalar .quoted t) with cursor := c, keyAllowed := false }

/-- After a plain text.  Keys are allowed again when a line end follows it. -/
def plainText (s : Scan) : Result := do
  let s ← s.saveKey
  let indent := (s.indent + 1).toNat
  let (t, g, c) ← plain s.inFlow indent (s.cursor.rest.length + 1) [] {} s.cursor
  return { s.push (.scalar .plain t) with cursor := c, keyAllowed := g.hasBreak }

/-- Whether a character never starts a plain text on its own. -/
def isIndicator (c : Char) : Bool := "-?:,[]\x7b\x7d#&*!|>'\"%@`".toList.contains c

/-- Whether a plain text starts with `c` before `r`. -/
def startsPlain (s : Scan) (c : Char) (r : Text) : Bool :=
  !isIndicator c && !isBlank c && !isBreak c
    || c = '-' && !(r.head?.any isBlank)
    || !s.inFlow && (c = '?' || c = ':') && !atGap r

/-- After the token that starts with `c` before `r`. -/
def fetch (s : Scan) (c : Char) (r : Text) : Result :=
  if s.cursor.column = 0 ∧ c = '%' then s.directive
  else if s.cursor.atMark then s.documentMark (if c = '-' then .documentStart else .documentEnd)
  else if c = '[' then s.openFlow .openList
  else if c = '\x7b' then s.openFlow .openRecord
  else if c = ']' then s.closeFlow .closeList
  else if c = '\x7d' then s.closeFlow .closeRecord
  else if c = ',' then s.comma
  else if c = '-' ∧ atGap r then s.item
  else if c = '?' ∧ (s.inFlow ∨ atGap r) then s.explicitKey
  else if c = ':' ∧ (s.inFlow ∨ atGap r) then s.value
  else if c = '*' then s.named .alias
  else if c = '&' then s.named .anchor
  else if c = '!' then s.tag
  else if c = '|' ∧ !s.inFlow then s.blockText true
  else if c = '>' ∧ !s.inFlow then s.blockText false
  else if c = '\'' ∨ c = '"' then s.quotedText c
  else if s.startsPlain c r then s.plainText
  else .error "a character that starts no token"

/-- The scan at the end of its text.  Every round takes a character. -/
def finish : (fuel : Nat) → Scan → Result
  | 0, s => .ok s
  | fuel + 1, s => do
    let s ← (skipSpace (s.cursor.rest.length + 1) s).refreshKeys
    match s.cursor.rest with
    | [] => (s.closeTo (-1)).dropKey
    | c :: r => do
      let s ← (s.closeTo s.cursor.column).fetch c r
      finish fuel s

end Scan

/-- The tokens of a text. -/
def tokens (s : Text) : Except String (List Token) := do
  if !s.all isAllowed then throw "control characters are not allowed"
  let scan ← Scan.finish (s.length + 1) { cursor := { rest := s } }
  return scan.tokens.toList

end SourceMend.Yaml
