import SourceMend.CharSet
import SourceMend.Unicode.CategoryData
import SourceMend.Unicode.PropertyData
import SourceMend.Unicode.ScriptData
import SourceMend.Unicode.WordData

/-!
# Properties of characters

`wordChars`, `digits` and `blanks` are the three sets that patterns abbreviate.
`binary?`, `category?`, `script?` and `scriptExtension?` look up a set under one
of its names.  A name counts without case, blanks, hyphens, underscores and a
leading `is`.
-/

namespace SourceMend.Unicode

/-! ## Words, digits and blanks -/

/-- The word characters. -/
def wordChars : CharSet := ⟨wordRanges⟩

/-- The decimal digits. -/
def digits : CharSet := ⟨digitRanges⟩

/-- The blank characters. -/
def blanks : CharSet := ⟨Text.blankRanges⟩

/-- The word characters that are ASCII. -/
def asciiWordChars : CharSet := ⟨[(0x30, 0x39), (0x41, 0x5A), (0x5F, 0x5F), (0x61, 0x7A)]⟩

/-- The digits that are ASCII. -/
def asciiDigits : CharSet := ⟨[(0x30, 0x39)]⟩

/-- The blank characters that are ASCII. -/
def asciiBlanks : CharSet := ⟨[(0x9, 0xD), (0x20, 0x20)]⟩

/-! ## Names -/

/-- The characters of a name that count. -/
def essential (cs : Text) : Text :=
  (cs.filter fun c => c.toNat < 128 && c != ' ' && c != '_' && c != '-').map Char.toLower

/-- A name as the tables write it.  A leading `is` is dropped, but `isc` stays what it is. -/
def canonicalName (name : Text) : String :=
  match name with
  | a :: b :: rest =>
    if a.toLower = 'i' ∧ b.toLower = 's' then
      let r := essential rest
      if r = ['c'] then "isc" else .ofList r
    else .ofList (essential name)
  | _ => .ofList (essential name)

/-- The set that a table holds under a name. -/
def lookup (table : List (List String × List String)) (name : String) : Option CharSet :=
  (table.find? fun e => e.1.contains name).map fun e => .read e.2

/-- The names of the categories that unite others, with the names of those. -/
def categoryGroups : List (List String × List String) := [
  (["c", "other"], ["cc", "cf", "cn", "co"]),
  (["l", "letter"], ["ll", "lm", "lo", "lt", "lu"]),
  (["lc", "casedletter"], ["ll", "lt", "lu"]),
  (["m", "mark", "combiningmark"], ["mc", "me", "mn"]),
  (["n", "number"], ["nd", "nl", "no"]),
  (["p", "punctuation", "punct"], ["pc", "pd", "pe", "pf", "pi", "po", "ps"]),
  (["s", "symbol"], ["sc", "sk", "sm", "so"]),
  (["z", "separator"], ["zl", "zp", "zs"])]

/-! ## Sets by name -/

/-- The characters with a binary property. -/
def binary? (name : String) : Option CharSet := lookup propertyData name

/-- The characters of a general category. -/
def category? (name : String) : Option CharSet :=
  if name = "any" then some CharSet.all
  else if name = "ascii" then some ⟨[(0, 0x7F)]⟩
  else if name = "assigned" then (lookup categoryData "cn").map CharSet.complement
  else
    match categoryGroups.find? fun g => g.1.contains name with
    | some g => some (.ofRanges (g.2.flatMap fun n => ((lookup categoryData n).getD .empty).ranges))
    | none => lookup categoryData name

/-- The characters of a script. -/
def script? (name : String) : Option CharSet := lookup scriptData name

/-- The characters that a script is used with. -/
def scriptExtension? (name : String) : Option CharSet := lookup scriptExtensionData name

/-- The names that are both a category and a property, and stand for the category. -/
def categoryFirst : List String := ["cf", "sc", "lc"]

/-- The set of a name that stands alone: a property, else a category, else a script. -/
def named? (name : String) : Option CharSet :=
  (if categoryFirst.contains name then none else binary? name)
    <|> category? name <|> script? name

/-- The set of a property that is given with a value. -/
def valued? (property value : String) : Option CharSet :=
  if property = "gc" ∨ property = "generalcategory" then category? value
  else if property = "sc" ∨ property = "script" then script? value
  else if property = "scx" ∨ property = "scriptextensions" then scriptExtension? value
  else none

/-- The set of alphabetic characters. -/
def alphabetic : CharSet := (binary? "alpha").getD .empty

/-- The set of alphabetic characters and numbers. -/
def alphanumeric : CharSet := alphabetic.union ((category? "n").getD .empty)

end SourceMend.Unicode
