import SourceMend.Toml.Quoted
import SourceMend.Toml.Word

/-!
# Reading TOML

A document is a row of statements, each on a line of its own: a header opens a
table or a row in a list of tables, and an assignment gives a value to a key of
the table that is open.  `Toml.ofText?` reads a whole document.
-/

namespace SourceMend.Toml

/-! ## Between values -/

/-- The text after the blanks at its start. -/
def dropGap (s : Text) : Text := s.dropWhile isGap

/-- The text after a comment at its start.  A comment ends where its line ends. -/
def dropComment (s : Text) : Except String Text :=
  match s with
  | '#' :: r =>
    let rest := r.dropWhile isPlain
    if rest.isEmpty || atLineEnd rest then .ok rest else .error "invalid character in a comment"
  | s => .ok s

/-- The text after the blanks, comments and line ends at its start.  Every round drops a line. -/
def dropSpace : (fuel : Nat) → Text → Except String Text
  | 0, s => .ok s
  | fuel + 1, s => do
    let rest ← dropComment (dropGap s)
    if atLineEnd rest then dropSpace fuel (dropLineEnd rest) else return rest

/-- The text after the end of a line, before which only blanks and a comment may stand. -/
def endLine (s : Text) : Except String Text := do
  let rest ← dropComment (dropGap s)
  if rest.isEmpty then return []
  if atLineEnd rest then return dropLineEnd rest
  throw "expected the end of the line"

/-! ## Keys -/

/-- Whether a character may stand in a key without quotes. -/
def isKeyChar (c : Char) : Bool := c.isAlphanum || c = '_' || c = '-'

/-- The key at the start of a text, and the rest. -/
def key (s : Text) : Except String (String × Text) :=
  match s with
  | '"' :: '"' :: '"' :: _ => .error "a key has one line"
  | '\'' :: '\'' :: '\'' :: _ => .error "a key has one line"
  | s =>
    match quotedText? s with
    | some r => r.map fun p => (.ofList p.1, p.2)
    | none =>
      match s.span isKeyChar with
      | ([], _) => .error "expected a key"
      | (k, rest) => .ok (.ofList k, rest)

/-- The keys with dots between them at the start of a text, and the rest. -/
def keys : (fuel : Nat) → Text → Except String (List String × Text)
  | 0, _ => .error "expected a key"
  | fuel + 1, s => do
    let (k, rest) ← key (dropGap s)
    match dropGap rest with
    | '.' :: r => do
      let (ks, rest) ← keys fuel r
      return (k :: ks, rest)
    | rest => return ([k], rest)

/-! ## Values -/

/-- How deep lists and tables may be nested. -/
def nestLimit : Nat := 80

mutual

/-- The value at the start of a text, and the rest.  Every call takes a character, so the length of
the text is fuel enough. -/
def value (fuel depth : Nat) (s : Text) : Except String (Toml × Text) :=
  match fuel with
  | 0 => .error "expected a value"
  | fuel + 1 =>
    match s with
    | '[' :: r =>
      if nestLimit ≤ depth then .error "nested too deeply"
      else (items fuel (depth + 1) r).map fun p => (.list p.1, p.2)
    | '\x7b' :: r =>
      if nestLimit ≤ depth then .error "nested too deeply"
      else (pairs fuel (depth + 1) [] r).map fun p => (.table .inline p.1, p.2)
    | s =>
      match quotedText? s with
      | some r => r.map fun p => (.text (.ofList p.1), p.2)
      | none =>
        let (w, rest) := word s
        match ofWord? w with
        | some v => .ok (v, rest)
        | none => .error "invalid value"

/-- The elements of a list up to its closing bracket, and the rest. -/
def items (fuel depth : Nat) (s : Text) : Except String (List Toml × Text) :=
  match fuel with
  | 0 => .error "unclosed list"
  | fuel + 1 => do
    match ← dropSpace s.length s with
    | ']' :: r => return ([], r)
    | s => do
      let (v, rest) ← value fuel depth s
      match ← dropSpace rest.length rest with
      | ',' :: r => do
        let (vs, rest) ← items fuel depth r
        return (v :: vs, rest)
      | ']' :: r => return ([v], r)
      | _ => throw "unclosed list"

/-- The fields of a table up to its closing brace, and the rest. -/
def pairs (fuel depth : Nat) (fs : Fields) (s : Text) : Except String (Fields × Text) :=
  match fuel with
  | 0 => .error "unclosed table"
  | fuel + 1 => do
    match ← dropSpace s.length s with
    | '\x7d' :: r => return (fs, r)
    | s => do
      let (ks, rest) ← keys s.length s
      match rest with
      | '=' :: r => do
        let (v, rest) ← value fuel depth (dropGap r)
        let fs ← fs.assign v ks
        match ← dropSpace rest.length rest with
        | ',' :: r => pairs fuel depth fs r
        | '\x7d' :: r => return (fs, r)
        | _ => throw "unclosed table"
      | _ => throw "expected an equals sign"

end

/-! ## Documents -/

/-- What has been read of a document. -/
structure Draft where
  /-- The fields of the document. -/
  fields : Fields
  /-- The keys of the table that is open. -/
  place : List String

/-- The document after a header at the start of a text, and the rest. -/
def header (d : Draft) (s : Text) : Except String (Draft × Text) := do
  let (rows, s) := match s with
    | '[' :: r => (true, r)
    | r => (false, r)
  let (ks, rest) ← keys s.length s
  let opening := ks.getLastD ""
  let f := if rows then Fields.openRow opening else Fields.openTable opening
  let fields ← d.fields.enter f ks.dropLast
  match rows, rest with
  | true, ']' :: ']' :: r => return (⟨fields, ks⟩, r)
  | false, ']' :: r => return (⟨fields, ks⟩, r)
  | _, _ => throw "unclosed header"

/-- The document after an assignment at the start of a text, and the rest. -/
def assignment (d : Draft) (s : Text) : Except String (Draft × Text) := do
  let (ks, rest) ← keys s.length s
  match rest with
  | '=' :: r => do
    let s := dropGap r
    let (v, rest) ← value (s.length + 1) 0 s
    let fields ← d.fields.enter (Fields.assign v ks) d.place
    return ({ d with fields }, rest)
  | _ => throw "expected an equals sign"

/-- The document after all statements of a text.  Every statement ends a line. -/
def statements : (fuel : Nat) → Draft → Text → Except String Draft
  | 0, d, _ => .ok d
  | fuel + 1, d, s => do
    match ← dropSpace s.length s with
    | [] => return d
    | '[' :: r => do
      let (d, rest) ← header d r
      statements fuel d (← endLine rest)
    | s => do
      let (d, rest) ← assignment d s
      statements fuel d (← endLine rest)

/-- The fields of a document.  A byte order mark at its start does not count. -/
def ofText? (s : Text) : Except String Fields := do
  let s := match s with
    | '\uFEFF' :: r => r
    | s => s
  return (← statements (s.length + 1) ⟨[], []⟩ s).fields

end SourceMend.Toml
