import CallAudit.Console.Markup

/-!
# Notices

The messages of a run that do not belong to its report.  Names and reasons come
from outside and are escaped.
-/

namespace CallAudit

/-- A message of a run. -/
inductive Notice where
  /-- A file could not be read. -/
  | unreadable (file : String)
  /-- A file does not fit its grammar. -/
  | refused (file reason : String)
  /-- The examination of a file failed. -/
  | failed (file reason : String)
  /-- The scan was broken off after a number of files. -/
  | interrupted (filesScanned : Nat)
  /-- The settings cannot be used. -/
  | misconfigured (reason : String)
  deriving DecidableEq, Repr, Inhabited

namespace Notice

def markup : Notice → String
  | .unreadable file =>
      Markup.inStyle "yellow"
        ("Warning: cannot read " ++ Markup.escape file ++ ", skipping")
  | .refused file reason =>
      Markup.inStyle "bold red"
        ("Error parsing " ++ Markup.escape file ++ ":") ++ " " ++
        Markup.escape reason
  | .failed file reason =>
      Markup.inStyle "bold red"
        ("Error analyzing " ++ Markup.escape file ++ ":") ++ " " ++
        Markup.escape reason
  | .interrupted filesScanned =>
      Markup.inStyle "yellow"
        ("Scan interrupted; reporting results for " ++
          toString filesScanned ++ " completed file(s)")
  | .misconfigured reason =>
      Markup.inStyle "bold red" "Configuration error:" ++ " " ++
        Markup.escape reason

end Notice

end CallAudit
