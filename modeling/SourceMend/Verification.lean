/-!
# Verification

A verification compares the number of diagnostics before a run with the number
after it.  It succeeds when the number has not grown.  When there is nothing to
compare, the status of a run says why it was skipped.
-/

namespace SourceMend

/-- The numbers of diagnostics before and after a run. -/
structure Verification where
  /-- The number before. -/
  previous : Nat
  /-- The number after. -/
  new : Nat
  deriving DecidableEq, Repr

namespace Verification

/-- How many diagnostics fewer there are, zero if there are more. -/
def resolved (v : Verification) : Nat := v.previous - v.new

/-- Whether there are no more diagnostics than before. -/
def success (v : Verification) : Bool := decide (v.new ≤ v.previous)

/-- Whether no diagnostic is left. -/
def clean (v : Verification) : Bool := v.success && v.new == 0

/-- The outcome of verifying a run. -/
inductive Status where
  /-- Both numbers are known. -/
  | done (v : Verification)
  /-- There is nothing to compare, for a reason. -/
  | skipped (reason : String)
  deriving DecidableEq, Repr

end Verification
end SourceMend
