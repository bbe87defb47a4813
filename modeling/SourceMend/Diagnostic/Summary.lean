import SourceMend.Diagnostic

/-!
# How often each code occurs

`summarize` counts the diagnostics of each code.  The most frequent code comes
first, and codes of equal count are in ascending order.  The counts sum to the
number of diagnostics.
-/

namespace SourceMend.Diagnostic

/-- One more occurrence of `code` in a list of counts. -/
def tally (code : String) : List (String × Nat) → List (String × Nat)
  | [] => [(code, 1)]
  | (k, n) :: r => if k = code then (k, n + 1) :: r else (k, n) :: tally code r

/-- A count comes before another if it is larger, or equal with a code that is not larger. -/
def precedes (a b : String × Nat) : Bool :=
  b.2 < a.2 || (a.2 == b.2 && decide (a.1 ≤ b.1))

/-- The number of diagnostics of each code, most frequent first. -/
def summarize (ds : List Diagnostic) : List (String × Nat) :=
  (ds.foldl (fun counts d => tally d.code counts) []).mergeSort precedes

end SourceMend.Diagnostic
