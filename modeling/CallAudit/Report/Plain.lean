import CallAudit.Report.Basic
import CallAudit.Text.Split

/-!
# The report as plain text

A scan as a list of lines to be read by people.  The issues are grouped by
level, gravest first, and numbered within each level.
-/

namespace CallAudit.Report

inductive PlainPart where
  /-- The opening line with the numbers of issues and of files. -/
  | summary (issues filesScanned : Nat)
  /-- The head of the section of a level. -/
  | heading (level : Level) (issues : Nat)
  /-- An issue with its number and the texts of its suggestions. -/
  | entry (number : Nat) (issue : Issue) (suggestions : List String)
  /-- The general advice. -/
  | advice (lines : List String)
  deriving DecidableEq, Repr

def underline : String :=
  String.ofList (List.replicate 70 '=')

def suggestionLines (suggestions : List String) : List String :=
  if suggestions.isEmpty then []
  else "   Suggestions:" :: suggestions.map fun text => "   - " ++ text

/-- The place of an issue, as file, line and column. -/
def location (issue : Issue) : String :=
  issue.file ++ ":" ++ toString issue.line ++ ":" ++ toString issue.column

def PlainPart.lines : PlainPart → List String
  | .summary issues filesScanned =>
      [program ++ ": " ++ toString issues ++ " potential issue(s) in " ++
        toString filesScanned ++ " file(s)"]
  | .heading level issues =>
      ["", level.name ++ " risk (" ++ toString issues ++ " issues)", underline]
  | .entry number issue suggestions =>
      ["", toString number ++ ". " ++ location issue,
        "   Function: " ++ issue.function ++ "(), argument: " ++
          toString issue.argument,
        "   Problem: " ++ issue.risk.reason,
        "   Code: " ++ issue.code] ++
      suggestionLines suggestions
  | .advice lines =>
      ["", "", "General remediation:", underline] ++
      (numbered lines).map fun line => toString line.1 ++ ". " ++ line.2

def plainEntry (item : Nat × Issue) : Except ReportFault PlainPart :=
  (item.2.risk.suggestions.mapM suggestionText).map (.entry item.1 item.2)

def plainSection (part : Section) : Except ReportFault (List PlainPart) :=
  ((numbered part.issues).mapM plainEntry).map fun entries =>
    .heading part.level part.issues.length :: entries

def plainParts (scan : Scan) (minLevel : String) :
    Except ReportFault (List PlainPart) := do
  let issues ← chosen minLevel scan
  let parts ← sections issues
  let bodies ← parts.mapM plainSection
  return .summary issues.length scan.filesScanned ::
    (bodies.flatten ++ [.advice remediation])

/-- The text of the plain report; every line ends with a line feed. -/
def plain (scan : Scan) (minLevel : String) : Except ReportFault String :=
  (plainParts scan minLevel).map fun parts =>
    String.join ((parts.flatMap PlainPart.lines).map fun line => line ++ "\n")

end CallAudit.Report
