import CallAudit.Issue.Source

/-!
# Examining one file

The four ways in which the examination of a file ends.  A scan works with any
examiner; the standard one parses the file and audits its calls.
-/

namespace CallAudit

/-- How the examination of a file ends. -/
inductive Examination where
  /-- All calls were looked at. -/
  | finished (ledger : Ledger)
  /-- The text does not fit its grammar. -/
  | refused (reason : String)
  /-- Something went wrong on the way. -/
  | failed (reason : String)
  /-- The run is to be broken off. -/
  | interrupted
  deriving DecidableEq, Repr, Inhabited

abbrev Examiner := (file text : String) → Examination

namespace Examination

def ofAudit : Except AuditFault Ledger → Examination
  | .ok ledger => .finished ledger
  | .error (.source fault) => .refused fault.message
  | .error (.argument fault) => .failed ("IndexError: " ++ fault.message)

end Examination

/-- The examiner that audits the tree of a file under a vocabulary. -/
def Examiner.standard (read : TreeReader) (vocabulary : Vocabulary) :
    Examiner :=
  fun file text => .ofAudit (Source.audit read text file vocabulary)

end CallAudit
