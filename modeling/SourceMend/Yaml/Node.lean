import SourceMend.Yaml.Token

/-!
# Values of YAML

A value is a text, a list or a record, and the keys of a record are values too.
An alias is replaced by the value that its anchor marks.  `Yaml.ofText?` reads a
text that holds one document, or none.
-/

namespace SourceMend

/-- A YAML value. -/
inductive Yaml where
  /-- No document at all. -/
  | nothing
  /-- A text, with its tag. -/
  | scalar (tag : Option String) (style : Yaml.Style) (s : Text)
  /-- A list. -/
  | list (items : List Yaml)
  /-- A record. -/
  | record (fields : List (Yaml × Yaml))
  /-- An alias inside the value that it stands for. -/
  | cycle
  deriving Inhabited

namespace Yaml

/-- The tokens that are left, and the values of the anchors. -/
structure Source where
  /-- The tokens. -/
  tokens : List Token
  /-- The anchors with their values, the last first. -/
  anchors : List (String × Yaml)
  /-- The short forms of tags. -/
  forms : List (String × String)

namespace Source

/-- The source without its first token. -/
def next (s : Source) : Source := { s with tokens := s.tokens.tail }

/-- The first token. -/
def peek (s : Source) : Option Token := s.tokens.head?

/-- Whether the first token is one of some. -/
def «at» (s : Source) (ts : List Token) : Bool := s.peek.any ts.contains

/-- Whether the tokens are over or start with one of some. -/
def atEndOr (s : Source) (ts : List Token) : Bool := s.tokens.isEmpty || s.at ts

/-- The source after `t`, if that is the first token. -/
def accept? (s : Source) (t : Token) : Option Source := if s.at [t] then some s.next else none

/-- The source with a value for an anchor. -/
def bind (s : Source) (anchor : Option String) (v : Yaml) : Source :=
  match anchor with
  | some n => { s with anchors := (n, v) :: s.anchors }
  | none => s

end Source

/-- A text that is not written at all. -/
def blank : Yaml := .scalar none .plain []

/-- The tag that a short form and a suffix stand for. -/
def resolveTag (s : Source) (handle suffix : String) : Except String String :=
  if handle.isEmpty then .ok suffix
  else
    match s.forms.lookup handle with
    | some start => .ok (start ++ suffix)
    | none => .error "undefined tag"

/-- The anchor and the tag in front of a value, in any order. -/
def properties (s : Source) : Except String ((Option String × Option String) × Source) :=
  match s.peek with
  | some (.anchor a) =>
    match s.next.peek with
    | some (.tag h x) => do return ((some a, some (← resolveTag s h x)), s.next.next)
    | _ => .ok ((some a, none), s.next)
  | some (.tag h x) => do
    let t ← resolveTag s h x
    match s.next.peek with
    | some (.anchor a) => return ((some a, some t), s.next.next)
    | _ => return ((none, some t), s.next)
  | _ => .ok ((none, none), s)

/-- Where a value stands, which decides how it may be written. -/
structure Place where
  /-- Whether block style is allowed. -/
  block : Bool
  /-- Whether a list may start without being indented. -/
  flush : Bool

/-- A value inside brackets. -/
def Place.flow : Place := ⟨false, false⟩

/-- An element of a list in block style. -/
def Place.element : Place := ⟨true, false⟩

/-- A key or a value of a record in block style. -/
def Place.field : Place := ⟨true, true⟩

mutual

/-- The value at the start of a source.  Every call but a bounded number takes a token, so a
multiple of the number of tokens is fuel enough. -/
def value (fuel : Nat) (p : Place) (s : Source) : Except String (Yaml × Source) :=
  match fuel with
  | 0 => .error "nested too deeply"
  | fuel + 1 =>
    match s.peek with
    | some (.alias n) =>
      match s.anchors.lookup n with
      | some v => .ok (v, s.next)
      | none => .error "unknown anchor"
    | _ => do
      let ((anchor, tag), s) ← properties s
      let inside := s.bind anchor .cycle
      let done (v : Yaml) (s : Source) : Yaml × Source := (v, s.bind anchor v)
      match s.peek with
      | some (.scalar style t) => return done (.scalar tag style t) s.next
      | some .openList => do
        let (vs, s) ← flowItems fuel true inside.next
        return done (.list vs) s
      | some .openRecord => do
        let (fs, s) ← flowFields fuel true inside.next
        return done (.record fs) s
      | some .item =>
        if p.flush then do
          let (vs, s) ← flushItems fuel inside
          return done (.list vs) s
        else unwritten anchor tag s
      | some .listStart =>
        if p.block then do
          let (vs, s) ← blockItems fuel inside.next
          return done (.list vs) s
        else unwritten anchor tag s
      | some .recordStart =>
        if p.block then do
          let (fs, s) ← blockFields fuel inside.next
          return done (.record fs) s
        else unwritten anchor tag s
      | _ => unwritten anchor tag s
where
  /-- A value of which there is only an anchor or a tag. -/
  unwritten (anchor tag : Option String) (s : Source) : Except String (Yaml × Source) :=
    if anchor.isSome || tag.isSome then
      let v := Yaml.scalar tag .plain []
      .ok (v, s.bind anchor v)
    else .error "expected a value"

/-- The value at the start of a source, blank if one of some tokens comes first. -/
def valueUnless (fuel : Nat) (ts : List Token) (p : Place) (s : Source) :
    Except String (Yaml × Source) :=
  match fuel with
  | 0 => .error "nested too deeply"
  | fuel + 1 => if s.at ts then .ok (blank, s) else value fuel p s

/-- The elements of a list in block style. -/
def blockItems (fuel : Nat) (s : Source) : Except String (List Yaml × Source) :=
  match fuel with
  | 0 => .error "nested too deeply"
  | fuel + 1 =>
    match s.peek with
    | some .item => do
      let (v, s) ← valueUnless fuel [.item, .blockEnd] .element s.next
      let (vs, s) ← blockItems fuel s
      return (v :: vs, s)
    | some .blockEnd => .ok ([], s.next)
    | _ => .error "expected a hyphen"

/-- The elements of a list that is not indented. -/
def flushItems (fuel : Nat) (s : Source) : Except String (List Yaml × Source) :=
  match fuel with
  | 0 => .error "nested too deeply"
  | fuel + 1 =>
    match s.accept? .item with
    | some s => do
      let (v, s) ← valueUnless fuel [.item, .key, .value, .blockEnd] .element s
      let (vs, s) ← flushItems fuel s
      return (v :: vs, s)
    | none => .ok ([], s)

/-- The fields of a record in block style. -/
def blockFields (fuel : Nat) (s : Source) : Except String (List (Yaml × Yaml) × Source) :=
  match fuel with
  | 0 => .error "nested too deeply"
  | fuel + 1 =>
    match s.accept? .blockEnd with
    | some s => .ok ([], s)
    | none => do
      let ends := [Token.key, .value, .blockEnd]
      let (k, s) ← match s.peek with
        | some .key => valueUnless fuel ends .field s.next
        | some .value => .ok (blank, s)
        | _ => .error "expected a key"
      let (v, s) ← match s.accept? .value with
        | some s => valueUnless fuel ends .field s
        | none => .ok (blank, s)
      let (fs, s) ← blockFields fuel s
      return ((k, v) :: fs, s)

/-- The source at the next element inside brackets: after a comma, unless it is the first. -/
def flowNext (first : Bool) (s : Source) : Except String Source :=
  if first then .ok s
  else
    match s.accept? .comma with
    | some s => .ok s
    | none => .error "expected a comma"

/-- The elements of a list between brackets.  A key there makes an element a record of one field. -/
def flowItems (fuel : Nat) (first : Bool) (s : Source) : Except String (List Yaml × Source) :=
  match fuel with
  | 0 => .error "nested too deeply"
  | fuel + 1 =>
    match s.accept? .closeList with
    | some s => .ok ([], s)
    | none => do
      let s ← flowNext first s
      match s.accept? .closeList with
      | some s => return ([], s)
      | none =>
        let (v, s) ← match s.accept? .key with
          | some s => do
            let (k, s) ← valueUnless fuel [.value, .comma, .closeList] .flow s
            let (v, s) ← flowValue fuel [.comma, .closeList] s
            pure (Yaml.record [(k, v)], s)
          | none => value fuel .flow s
        let (vs, s) ← flowItems fuel false s
        return (v :: vs, s)

/-- The value after a key inside brackets, blank if there is none. -/
def flowValue (fuel : Nat) (ends : List Token) (s : Source) : Except String (Yaml × Source) :=
  match fuel with
  | 0 => .error "nested too deeply"
  | fuel + 1 =>
    match s.accept? .value with
    | some s => valueUnless fuel ends .flow s
    | none => .ok (blank, s)

/-- The fields of a record between braces. -/
def flowFields (fuel : Nat) (first : Bool) (s : Source) :
    Except String (List (Yaml × Yaml) × Source) :=
  match fuel with
  | 0 => .error "nested too deeply"
  | fuel + 1 =>
    match s.accept? .closeRecord with
    | some s => .ok ([], s)
    | none => do
      let s ← flowNext first s
      match s.accept? .closeRecord with
      | some s => return ([], s)
      | none =>
        let (f, s) ← match s.accept? .key with
          | some s => do
            let (k, s) ← valueUnless fuel [.value, .comma, .closeRecord] .flow s
            let (v, s) ← flowValue fuel [.comma, .closeRecord] s
            pure ((k, v), s)
          | none => do
            let (k, s) ← value fuel .flow s
            pure ((k, blank), s)
        let (fs, s) ← flowFields fuel false s
        return (f :: fs, s)

end

/-! ## Documents -/

/-- The short forms of tags that every document has. -/
def standardForms : List (String × String) := [("!", "!"), ("!!", "tag:yaml.org,2002:")]

/-- The source after the directives at its start. -/
def directives : (version : Bool) → (forms : List (String × String)) → List Token →
    Except String (Bool × List (String × String) × List Token)
  | version, forms, .version :: r =>
    if version then .error "a second version" else directives true forms r
  | version, forms, .tagForm h x :: r =>
    if (forms.lookup h).isSome then .error "a second short form"
    else directives version ((h, x) :: forms) r
  | version, forms, r => .ok (version || !forms.isEmpty, forms, r)

/-- Whether a document has no content before the first of some tokens. -/
def isBare : List Token → Bool
  | [] => true
  | t :: _ =>
    match t with
    | .version => true
    | .tagForm .. => true
    | .documentStart => true
    | .documentEnd => true
    | _ => false

/-- The value of a document whose content starts with some tokens. -/
def content (forms : List (String × String)) (ts : List Token) : Except String Yaml := do
  let s : Source := { tokens := ts, anchors := [], forms := forms ++ standardForms }
  let (v, s) ← if isBare ts then pure (blank, s) else value (8 * ts.length + 8) .element s
  if (s.tokens.dropWhile (· == .documentEnd)).isEmpty then return v
  else throw "more than one document"

/-- The value of the document that some tokens hold. -/
def document (ts : List Token) : Except String Yaml := do
  match ts with
  | [] => return .nothing
  | ts =>
    if !isBare ts then content [] ts
    else
      let (any, forms, rest) ← directives false [] ts
      match rest with
      | .documentStart :: r => content forms r
      | [] => if any then throw "expected the start of a document" else return .nothing
      | _ => throw "expected the start of a document"

/-- The value that a text holds. -/
def ofText? (s : Text) : Except String Yaml := do document (← tokens s)

end Yaml
end SourceMend
