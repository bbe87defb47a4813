/-!
# Why a pattern is refused

`Pattern.Error` lists the faults that a pattern can have, and `Error.message`
words them.
-/

namespace SourceMend.Pattern

/-- A fault of a pattern. -/
inductive Error where
  /-- A group is opened and not closed. -/
  | unclosedGroup
  /-- A group is closed and not opened. -/
  | unopenedGroup
  /-- A group looks ahead or behind. -/
  | lookAround
  /-- The name of a group is missing, malformed or unfinished. -/
  | groupName
  /-- Two groups have one name. -/
  | duplicateName (name : String)
  /-- Flags are missing, unknown, repeated or unfinished. -/
  | flags
  /-- A repetition has nothing to repeat. -/
  | nothingToRepeat
  /-- The bounds of a repetition are malformed, too large or out of order. -/
  | repetition
  /-- An escape sequence is unknown or unfinished. -/
  | escape
  /-- A code point is malformed or no character. -/
  | codePoint
  /-- A word edge has an unknown name. -/
  | wordEdge
  /-- No set of characters has this name. -/
  | property
  /-- A set is opened and not closed. -/
  | unclosedSet
  /-- A set holds what is no character and no set. -/
  | setItem
  /-- The ends of a range are no characters or out of order. -/
  | range
  /-- Something other than ASCII is used where only ASCII is switched on. -/
  | asciiOnly
  /-- Parentheses, repetitions or sets are nested too deeply. -/
  | tooDeep
  /-- The pattern is too large. -/
  | tooLarge
  deriving DecidableEq, Repr

namespace Error

/-- The text of a fault. -/
def message : Error → String
  | unclosedGroup => "unclosed group"
  | unopenedGroup => "unopened group"
  | lookAround => "look-around is not supported"
  | groupName => "invalid group name"
  | duplicateName name => "duplicate group name " ++ name
  | flags => "invalid flags"
  | nothingToRepeat => "nothing to repeat"
  | repetition => "invalid repetition"
  | escape => "unknown escape sequence"
  | codePoint => "invalid code point"
  | wordEdge => "unknown word edge"
  | property => "unknown property"
  | unclosedSet => "unclosed set"
  | setItem => "invalid set item"
  | range => "invalid range"
  | asciiOnly => "only ASCII is allowed here"
  | tooDeep => "nested too deeply"
  | tooLarge => "too large"

end Error
end SourceMend.Pattern
