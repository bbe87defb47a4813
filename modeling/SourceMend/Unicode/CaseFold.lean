import SourceMend.CharSet
import SourceMend.Unicode.FoldData

/-!
# Sets closed under case

Two characters *differ only in case* when their simple case foldings are equal.
`CharSet.closeCase` adds to a set every character that differs only in case from
one of its own, and `closeAsciiCase` adds ASCII letters only.
-/

namespace SourceMend

namespace Unicode

/-- The classes of code points that differ only in case, those with several members. -/
def foldClasses : List (List Nat) :=
  foldData.flatMap fun s =>
    (s.toList.splitOn ' ').map fun w => (w.splitOn '=').filterMap (Text.digits 16)

end Unicode

namespace CharSet

/-- The set with all characters that differ only in case from one of its own. -/
def closeCase (s : CharSet) : CharSet :=
  let added := Unicode.foldClasses.filter fun c => c.any fun n => inRanges n s.ranges
  .ofRanges (s.ranges ++ added.flatten.map fun n => (n, n))

/-- The ASCII letters with their counterparts of the other case. -/
def asciiPairs : List (Nat × Nat) :=
  (List.range 26).map fun i => (0x41 + i, 0x61 + i)

/-- The set with all ASCII letters that differ only in case from one of its own. -/
def closeAsciiCase (s : CharSet) : CharSet :=
  let added := asciiPairs.filter fun p => inRanges p.1 s.ranges || inRanges p.2 s.ranges
  .ofRanges (s.ranges ++ added.flatMap fun p => [(p.1, p.1), (p.2, p.2)])

end CharSet
end SourceMend
