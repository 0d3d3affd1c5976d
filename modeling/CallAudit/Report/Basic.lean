import CallAudit.Scan.Basic
import CallAudit.Text.Quoted

/-!
# Reports

What the reports of a scan have in common: which issues they tell of, how those
are counted and grouped, and the general advice at the end.
-/

namespace CallAudit

/-- The reasons why a scan has no report. -/
inductive ReportFault where
  /-- The least level to report is not the name of a level. -/
  | unknownLevel (name : String)
  /-- A suggestion lacks a parameter of its template. -/
  | missingParameter (name : String)
  /-- An issue has a level without a section. -/
  | unreportable (level : Level)
  deriving DecidableEq, Repr

/-- A section of a report: the issues of one level. -/
structure Section where
  level : Level
  issues : List Issue
  deriving DecidableEq, Repr

namespace Report

def program : String :=
  "decimalguard"

def version : String :=
  "1.0.0"

def remediation : List String :=
  ["Give function parameters default values: " ++
      "function fn(value = 0) \x7b ... \x7d",
    "Give destructured properties default values: " ++
      "const \x7b amount = 0 \x7d = item || \x7b\x7d",
    "Use optional chaining: item?.amount",
    "Check types before calling: " ++
      "typeof value === \"number\" ? divDecimals(value, 100) : 0",
    "Convert with Number() and a fallback: " ++
      "divDecimals(Number(value) || 0, 100)",
    "Validate data shape at the component or API boundary",
    "Enable TypeScript strict mode to catch missing values at compile time"]

/-- Things with their numbers, from one on. -/
def numbered {α : Type} (items : List α) : List (Nat × α) :=
  items.zipIdx.map fun item => (item.2 + 1, item.1)

/-- The issues that a report tells of: those of at least a named level. -/
def chosen (minLevel : String) (scan : Scan) : Except ReportFault (List Issue) :=
  match Level.ofName? minLevel with
  | none => .error (.unknownLevel minLevel)
  | some level => .ok (Issue.atLeast level scan.ledger.issues)

/-- The sections that have issues, gravest first. -/
def sections (issues : List Issue) : Except ReportFault (List Section) :=
  match Issue.sections issues with
  | .error fault => .error (.unreportable fault.level)
  | .ok all =>
      .ok ((all.filter fun entry => !entry.2.isEmpty).map fun entry =>
        ⟨entry.1, entry.2⟩)

def suggestionText (suggestion : Suggestion) : Except ReportFault String :=
  suggestion.render.mapError fun fault => .missingParameter fault.parameter

/-- The reported levels that have issues, with the number of issues of each,
gravest first. -/
def levelCounts (issues : List Issue) : List (Level × Nat) :=
  (Level.reported.map fun level =>
    (level, (Issue.ofLevel level issues).length)).filter fun entry =>
      entry.2 != 0

def countName (counts : List (String × Nat)) (name : String) :
    List (String × Nat) :=
  if counts.any fun entry => entry.1 == name then
    counts.map fun entry =>
      if entry.1 == name then (entry.1, entry.2 + 1) else entry
  else
    counts ++ [(name, 1)]

/-- The functions with issues and the number of issues of each, in the order of
their first issue. -/
def functionTally (issues : List Issue) : List (String × Nat) :=
  (issues.map Issue.function).foldl countName []

/-- Put a count in front of the first smaller one. -/
def insertByCount (entry : String × Nat) :
    List (String × Nat) → List (String × Nat)
  | [] => [entry]
  | head :: rest =>
      if head.2 ≤ entry.2 then entry :: head :: rest
      else head :: insertByCount entry rest

/-- The functions with issues and the number of issues of each, the largest
number first.  Functions with the same number are in the order of their first
issue. -/
def functionCounts (issues : List Issue) : List (String × Nat) :=
  (functionTally issues).foldr insertByCount []

end Report

end CallAudit
