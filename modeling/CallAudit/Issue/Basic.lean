import CallAudit.Risk.Basic

/-!
# Issues

A risky argument of a watched call: where it is, what it is, and the verdict.
-/

namespace CallAudit

/-- A risky argument at a call of a watched function.  Lines and arguments
count from one, columns from zero. -/
structure Issue where
  file : String
  line : Int
  column : Int
  function : String
  argument : Int
  risk : Risk
  code : String
  lineContent : String := ""
  deriving DecidableEq, Repr, Inhabited

def Issue.atLeast (threshold : Level) (issues : List Issue) : List Issue :=
  issues.filter fun issue => threshold ≤ issue.risk.level

def Issue.ofLevel (level : Level) (issues : List Issue) : List Issue :=
  issues.filter fun issue => issue.risk.level = level

/-- An issue has a level that no section of a report is made for. -/
structure Unreportable where
  level : Level
  deriving DecidableEq, Repr

/-- The issues sorted into the reported levels, gravest first.  Each section
keeps the order of the issues; a harmless issue has no section to go to. -/
def Issue.sections (issues : List Issue) :
    Except Unreportable (List (Level × List Issue)) :=
  match issues.find? fun issue => issue.risk.level = .none with
  | some issue => .error ⟨issue.risk.level⟩
  | none => .ok (Level.reported.map fun level => (level, ofLevel level issues))

end CallAudit
