import SourceMend.Checker
import SourceMend.Verification

/-!
# Verifying a run

After a run the checker is started once more, and the number of its diagnostics
is compared with the number before.  Whatever stands in the way becomes the
reason why the verification was skipped.
-/

namespace SourceMend.Verification.Status

/-- The verification of a run that began with `before` diagnostics. -/
def ofRun (t : Tree) (checker? : Option Checker) (before : Option Nat) (dryRun : Bool) : Status :=
  if dryRun then .skipped "dry run wrote nothing"
  else
    match checker?, before with
    | none, _ => .skipped "no checker configured"
    | some _, none => .skipped "baseline diagnostics unavailable"
    | some c, some n =>
      match c.collect t [] with
      | .ok ds => .done ⟨n, ds.length⟩
      | .error e => .skipped e.message

end SourceMend.Verification.Status
