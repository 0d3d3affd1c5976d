import CallAudit.Console.Block
import CallAudit.Console.Markup
import CallAudit.Files.Read
import CallAudit.Grammar.Dialect
import CallAudit.Number.Shortest
import CallAudit.Report.Plain
import CallAudit.Time.Moment

/-!
# The report on the console

A scan as blocks: a panel about the scan, one with its numbers, a panel for
every issue under the line of its level, and the general advice.
-/

namespace CallAudit.Report

/-! ## Styles -/

def levelStyle : Level → String
  | .high => "bold red"
  | .medium => "yellow"
  | .low => "green"
  | .none => ""

/-- The style for the level in the title of an issue. -/
def badgeStyle : Level → String
  | .high => "bold white on red"
  | .medium => "bold yellow"
  | .low => "bold green"
  | .none => ""

def title (text : String) : Caption :=
  .markup (Markup.inStyle "bold white" text)

/-! ## Banner and head -/

def banner : List Block :=
  [.blank,
    .panel
      (.centered (.styled (.ofParts
        [(program, "bold yellow"),
          (" v" ++ version ++ "\n\n", "dim"),
          ("Tree-sitter AST Checker for Undefined Decimal Math Arguments\n",
            "bold white"),
          ("Unresolved bindings | Missing defaults | Unguarded member access",
            "dim")])))
      none { border := "yellow", frame := .double, padding := ⟨1, 2⟩ },
    .blank]

def infoPanel (target minLevel : String) (now : Moment) : Block :=
  .panel
    (.centered (.styled (.ofParts
      [("Target: ", "bold cyan"), (target ++ "  ", "white"),
        ("Date: ", "bold cyan"), (now.plainText ++ "  ", "white"),
        ("Level: ", "bold cyan"), (">= " ++ minLevel, "white")])))
    (some (title "Scan Info")) { border := "blue" }

def plainRow (key value : String) : Caption × Caption :=
  (.markup key, .markup value)

def countRow (name style : String) (count : Nat) : Caption × Caption :=
  (.styled (.ofText name style), .markup (toString count))

def statisticsRows (scan : Scan) (issues : List Issue) :
    List (Caption × Caption) :=
  [plainRow "Files Scanned" (toString scan.filesScanned),
    plainRow "Files Skipped" (toString scan.skipped.length),
    plainRow "Total Issues" (toString issues.length),
    plainRow "Scan Time" (scan.elapsed.fixedText 2 ++ "s"),
    plainRow "" ""] ++
  (levelCounts issues).map (fun entry =>
    countRow entry.1.name (levelStyle entry.1) entry.2) ++
  [plainRow "" ""] ++
  (functionCounts issues).map fun entry =>
    countRow (entry.1 ++ "()") "cyan" entry.2

def statisticsPanel (scan : Scan) (issues : List Issue) : Block :=
  .panel (.table (statisticsRows scan issues))
    (some (title "Scan Statistics"))
    { border := "cyan", padding := ⟨1, 1⟩ }

def nothingPanel : Block :=
  .panel
    (.centered (.styled (.ofText "No risky arguments found." "bold green")))
    none { border := "green", padding := ⟨1, 4⟩ }

/-! ## Issues -/

/-- The items of a list from one place up to another.  A negative end counts
back from the end of the list. -/
def window {α : Type} (items : List α) (start : Nat) (stop : Int) : List α :=
  (items.take (if stop < 0 then (items.length + stop).toNat else stop.toNat)).drop
    start

def shownLanguage (file : String) : String :=
  if (Dialect.ofFile file).typed then "typescript" else "javascript"

def surroundings (issue : Issue) (text : String) : Excerpt :=
  let lines := Text.lines text
  let start := (issue.line - 3).toNat
  let stop := min (lines.length : Int) (issue.line + 2)
  { text := Text.joinWith "\n" (window lines start stop),
    language := shownLanguage issue.file,
    firstLine := start + 1,
    highlighted := [issue.line] }

def ownLine (issue : Issue) : Excerpt :=
  { text := issue.lineContent,
    language := shownLanguage issue.file,
    firstLine := issue.line,
    highlighted := [] }

/-- The excerpt to show for an issue: the lines around it when the text of its
file is at hand and not empty, else its own line if it is known. -/
def excerpt? (issue : Issue) (text : Option String) : Option Excerpt :=
  match text.filter (· != "") with
  | some text => some (surroundings issue text)
  | none => if issue.lineContent = "" then none else some (ownLine issue)

def issueTitle (number : Nat) (issue : Issue) : Styled :=
  .ofParts
    [(" " ++ issue.risk.level.name ++ " ", badgeStyle issue.risk.level),
      (" " ++ toString number ++ ". " ++ issue.function ++ "() argument " ++
        toString issue.argument ++ " ", "bold white")]

/-- The place of an issue and its argument, next to each other. -/
def issueHead (issue : Issue) : Block :=
  .columns
    [.styled (.ofParts
        [("Location: ", "bold cyan"), (location issue, "white")]),
      .styled (.ofParts
        [("Argument: ", "bold magenta"), (issue.code, "white")])]

def suggestionBlock (suggestions : List String) : Block :=
  .styled (.ofParts
    (("\nSuggestions:", "bold yellow") ::
      suggestions.map fun text => ("\n  - " ++ text, "dim white")))

def issueBody
    (issue : Issue) (text : Option String) (suggestions : List String) :
    List Block :=
  [issueHead issue,
    .styled (.ofParts [("\n" ++ issue.risk.reason, "italic white")])] ++
  ((excerpt? issue text).map fun excerpt =>
    [.styled .empty, .source excerpt]).getD [] ++
  (if suggestions.isEmpty then [] else [suggestionBlock suggestions])

def issuePanel (disk : Disk) (item : Nat × Issue) : Except ReportFault Block :=
  (item.2.risk.suggestions.mapM suggestionText).map fun suggestions =>
    .panel (.group (issueBody item.2 (disk.text? item.2.file) suggestions))
      (some (.styled (issueTitle item.1 item.2)))
      { border := levelStyle item.2.risk.level, padding := ⟨1, 2⟩ }

def sectionRule (part : Section) : Block :=
  .rule
    (Markup.inStyle "bold white"
      (part.level.name ++ " risk (" ++ toString part.issues.length ++
        " issues)"))
    (levelStyle part.level)

def sectionBlocks (disk : Disk) (part : Section) :
    Except ReportFault (List Block) :=
  ((numbered part.issues).mapM (issuePanel disk)).map fun panels =>
    [sectionRule part, .blank] ++ panels.flatMap fun panel => [panel, .blank]

/-! ## The whole report -/

/-- The parts of the advice: a number and a line for each piece, with line
breaks between the pieces. -/
def adviceParts (advice : List String) : List (String × String) :=
  (numbered advice).flatMap fun line =>
    (if line.1 = 1 then [] else [("\n", "")]) ++
      [(toString line.1 ++ ". ", "bold yellow"), (line.2, "white")]

def advicePanel : Block :=
  .panel (.styled (.ofParts (adviceParts remediation)))
    (some (title "General Remediation"))
    { border := "yellow", padding := ⟨1, 2⟩ }

/-- The blocks about issues: a panel that there are none, or the sections and
the advice. -/
def findings (disk : Disk) (issues : List Issue) :
    Except ReportFault (List Block) :=
  if issues.isEmpty then
    .ok [nothingPanel]
  else do
    let parts ← sections issues
    let blocks ← parts.mapM (sectionBlocks disk)
    return blocks.flatten ++ [advicePanel]

/-- The report of a scan on the console.  Excerpts are taken from the disk. -/
def display
    (disk : Disk) (scan : Scan) (target minLevel : String) (now : Moment) :
    Except ReportFault (List Block) := do
  let issues ← chosen minLevel scan
  let found ← findings disk issues
  return [infoPanel target minLevel now, .blank,
    statisticsPanel scan issues, .blank] ++ found

end CallAudit.Report
