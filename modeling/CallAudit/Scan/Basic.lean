import CallAudit.Issue.Ledger
import CallAudit.Number.Binary

/-!
# Scans

What a scan of files comes to: the issues of the files that were examined to
the end, and the files that were skipped with the reason for each.
-/

namespace CallAudit

/-- A file that was not examined to the end. -/
structure SkippedFile where
  file : String
  reason : String
  deriving DecidableEq, Repr, Inhabited

structure Scan where
  ledger : Ledger := .empty
  filesScanned : Nat := 0
  skipped : List SkippedFile := []
  elapsed : Binary := .zero false
  cancelled : Bool := false
  deriving DecidableEq, Repr, Inhabited

namespace Scan

def complete (scan : Scan) (ledger : Ledger) : Scan :=
  { scan with
    ledger := scan.ledger.merge ledger,
    filesScanned := scan.filesScanned + 1 }

def skip (scan : Scan) (file reason : String) : Scan :=
  { scan with skipped := scan.skipped ++ [⟨file, reason⟩] }

def cancel (scan : Scan) : Scan :=
  { scan with cancelled := true }

end Scan

end CallAudit
