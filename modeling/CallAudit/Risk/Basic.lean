import CallAudit.Risk.Level
import CallAudit.Risk.Suggestion

/-!
# Risks

The verdict on one argument: how grave, why, and what to do about it.
-/

namespace CallAudit

/-- The verdict on one argument expression. -/
structure Risk where
  level : Level
  reason : String := ""
  suggestions : List Suggestion := []
  deriving DecidableEq, Repr, Inhabited

def Risk.harmless : Risk :=
  { level := .none }

end CallAudit
