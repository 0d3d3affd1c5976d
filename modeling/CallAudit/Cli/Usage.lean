import CallAudit.Cli.Session

/-!
# Usage

What the program says about itself and about command lines and runs that went
wrong.
-/

namespace CallAudit.Cli

def usage : String :=
  "usage: " ++ Report.program ++ " [-h] [--config CONFIG] [--watch NAMES] " ++
    "[--safe NAMES] [--include GLOB]\n" ++
    "       [--exclude GLOB] [--output text|json] [-o OUTPUT_FILE] " ++
    "[--min-level HIGH|MEDIUM|LOW]\n" ++
    "       [--fail-on-high] [--no-banner] [--no-progress] [target]"

def Flag.name (flag : Flag) : String :=
  ((Flag.spellings.filter fun entry => entry.2 = flag).getLast?.map
    Prod.fst).getD ""

def Misuse.message : Misuse → String
  | .ambiguous word => "ambiguous option: " ++ word
  | .valueMissing flag => "argument " ++ flag.name ++ ": expected one argument"
  | .valueIgnored flag value =>
      "argument " ++ flag.name ++ ": ignored explicit argument " ++
        Text.quoted value
  | .invalidChoice flag value =>
      "argument " ++ flag.name ++ ": invalid choice: " ++ Text.quoted value ++
        " (choose from " ++
        Text.joinWith ", " ((flag.choices?.getD []).map Text.quoted) ++ ")"
  | .unrecognized => "unrecognized arguments"

/-- What is wrong with settings that could not be loaded. -/
def loadMessage : LoadFault → String
  | .settings fault => fault.message
  | .encoding => "the settings file is not UTF-8"
  | .value .tooManyDigits => "a number in the settings file is too long"
  | .value _ => "a value in the settings file cannot be worked out"

def reportMessage : ReportFault → String
  | .unknownLevel name => "unknown level " ++ Text.quoted name
  | .missingParameter name => "missing parameter " ++ Text.quoted name
  | .unreportable level => "no section for level " ++ level.name

def writeMessage : PathFault → String
  | .missing => "no such directory for the report"
  | .notDirectory => "not a directory on the way to the report"
  | .isDirectory => "the report file is a directory"

def Crash.message : Crash → String
  | .load fault => loadMessage fault
  | .report fault => reportMessage fault
  | .write fault => writeMessage fault

end CallAudit.Cli
