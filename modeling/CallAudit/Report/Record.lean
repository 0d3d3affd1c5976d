import CallAudit.Report.Basic
import CallAudit.Report.Datum
import CallAudit.Time.Moment

/-!
# The report as data

A scan as one record, for other programs to read.  The issues stand in the order
in which they were found.
-/

namespace CallAudit.Report

def suggestionDatum (suggestion : Suggestion) : Except ReportFault Datum :=
  (suggestionText suggestion).map fun text =>
    .record
      [("template", .text suggestion.template),
        ("params", .record (suggestion.settledParams.map fun entry =>
          (entry.1, .text entry.2))),
        ("text", .text text)]

def issueDatum (issue : Issue) : Except ReportFault Datum :=
  (issue.risk.suggestions.mapM suggestionDatum).map fun suggestions =>
    .record
      [("file", .text issue.file),
        ("line", .number issue.line),
        ("column", .number issue.column),
        ("function", .text issue.function),
        ("argument", .number issue.argument),
        ("level", .text issue.risk.level.name),
        ("reason", .text issue.risk.reason),
        ("code", .text issue.code),
        ("suggestions", .list suggestions)]

def skippedDatum (skipped : SkippedFile) : Datum :=
  .record [("file", .text skipped.file), ("error", .text skipped.reason)]

def summaryDatum (issues : List Issue) : Datum :=
  .record
    [("by_level", .record ((levelCounts issues).map fun entry =>
      (entry.1.name, .number entry.2)))]

def recordOf (scan : Scan) (minLevel : String) (now : Moment) :
    Except ReportFault Datum := do
  let issues ← chosen minLevel scan
  let issueData ← issues.mapM issueDatum
  return .record
    [("scan_date", .text (now.exactText "T")),
      ("scanner", .text (program ++ " v" ++ version)),
      ("files_scanned", .number scan.filesScanned),
      ("skipped_files", .list (scan.skipped.map skippedDatum)),
      ("cancelled", .switch scan.cancelled),
      ("total_issues", .number issues.length),
      ("issues", .list issueData),
      ("summary", summaryDatum issues),
      ("remediation", .list (remediation.map .text))]

def json (scan : Scan) (minLevel : String) (now : Moment) :
    Except ReportFault String :=
  (recordOf scan minLevel now).map Datum.toText

end CallAudit.Report
