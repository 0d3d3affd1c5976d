import CallAudit.Settings.Basic
import CallAudit.Text.Quoted
import CallAudit.Text.Split
import CallAudit.Yaml.Fault

/-!
# Faulty settings

Everything that can be wrong with the settings of a run, and the wording of
each case.  A run with faulty settings ends before any file is looked at.

Not everything that keeps a settings file from being used is a fault of the
settings: bytes that cannot be decoded and values that cannot be worked out, or
that have no text, are not.
-/

namespace CallAudit

/-- What can be wrong with the settings of a run. -/
inductive SettingsFault where
  /-- There is no function to watch. -/
  | nothingWatched
  /-- Some functions are watched and trusted at once. -/
  | watchedAndTrusted (names : Names)
  /-- There is no pattern for files to take. -/
  | noFileGlobs
  /-- The least level to report is not the name of a reported level. -/
  | unknownLevel (given : String)
  /-- The value for a set of functions is not a list. -/
  | namesExpected (key : String)
  /-- The value for a list of patterns is neither a list nor a text. -/
  | patternsExpected (key : String)
  /-- The value for a switch is neither true nor false. -/
  | switchExpected (key : String)
  /-- The settings file asked for does not exist. -/
  | fileMissing (path : String)
  /-- The settings file cannot be opened or read. -/
  | fileUnreadable (path detail : String)
  /-- The settings file is not well formed. -/
  | fileMalformed (path detail : String)
  /-- The settings file does not hold a mapping. -/
  | mappingExpected (path : String)
  /-- There is nothing at the place to scan. -/
  | rootMissing (root : String)
  deriving DecidableEq, Repr

namespace SettingsFault

def message : SettingsFault → String
  | .nothingWatched => "watched_functions must name at least one function"
  | .watchedAndTrusted names =>
      "watched_functions and safe_conversion_functions must be disjoint; " ++
        "both contain: " ++ Text.joinWith ", " names
  | .noFileGlobs => "file_globs must contain at least one pattern"
  | .unknownLevel given =>
      "min_level must be one of " ++ Text.joinWith ", " Settings.levelNames ++
        ", got " ++ Text.quoted given
  | .namesExpected key => key ++ " must be a list of function names"
  | .patternsExpected key => key ++ " must be a list of glob patterns"
  | .switchExpected key => key ++ " must be true or false"
  | .fileMissing path => "config file not found: " ++ path
  | .fileUnreadable path detail => "cannot read " ++ path ++ ": " ++ detail
  | .fileMalformed path detail => "invalid YAML in " ++ path ++ ": " ++ detail
  | .mappingExpected path => path ++ ": top level must be a mapping"
  | .rootMissing root => "scan root does not exist: " ++ root

end SettingsFault

/-- The reasons why settings could not be loaded. -/
inductive LoadFault where
  | settings (fault : SettingsFault)
  /-- The settings file cannot be decoded. -/
  | encoding
  /-- A value in the settings file cannot be worked out or has no text. -/
  | value (fault : Yaml.ValueFault)
  deriving DecidableEq, Repr

end CallAudit
