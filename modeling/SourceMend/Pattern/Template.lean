import SourceMend.Pattern

/-!
# Templates

A template is a replacement text in which groups of the match can be named.
`$1` and `$name` stand for a group, where the name is the longest row of ASCII
letters, digits and underscores.  In `${name}` the name may be any text without
a closing brace.  `$$` is a dollar sign, and so is a `$` that begins none of
these.  A group that does not exist or did not take part is empty.
-/

namespace SourceMend.Pattern

/-- A part of a template. -/
inductive TemplatePart where
  /-- A character that stands for itself. -/
  | char (c : Char)
  /-- A group by its number or name. -/
  | ref (name : Text)
  deriving DecidableEq, Repr

/-- Whether a character can stand in a name without braces. -/
def isRefChar (c : Char) : Bool := c.isAlphanum || c == '_'

/-- The group that is named after a dollar sign, and what follows it. -/
def reference? (s : Text) : Option (Text × Text) :=
  match s with
  | '\x7b' :: r =>
    match r.span (· != '\x7d') with
    | (name, '\x7d' :: rest) => some (name, rest)
    | _ => none
  | s =>
    match s.span isRefChar with
    | ([], _) => none
    | (name, rest) => some (name, rest)

/-- The parts of a template.  Every step consumes a character, so as much fuel as there are
characters is enough. -/
def templateParts (fuel : Nat) (s : Text) : List TemplatePart :=
  match fuel, s with
  | fuel + 1, '$' :: '$' :: r => .char '$' :: templateParts fuel r
  | fuel + 1, '$' :: r =>
    match reference? r with
    | some (name, rest) => .ref name :: templateParts fuel rest
    | none => .char '$' :: templateParts fuel r
  | fuel + 1, c :: r => .char c :: templateParts fuel r
  | _, _ => []

/-- The text of the group that a name or number stands for. -/
def referenced (p : Pattern) (m : Match) (name : Text) : Text :=
  let group? :=
    match Text.bounded Text.word64 name with
    | some i => m.group? i
    | none => (p.names.lookup (String.ofList name)).bind m.group?
  group?.getD []

/-- The text of a part for a match. -/
def TemplatePart.expand (p : Pattern) (m : Match) : TemplatePart → Text
  | char c => [c]
  | ref name => p.referenced m name

/-- The text that a template gives for a match. -/
def expand (p : Pattern) (m : Match) (template : Text) : Text :=
  (templateParts template.length template).flatMap (·.expand p m)

end SourceMend.Pattern
