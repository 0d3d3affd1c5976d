import CallAudit.Settings.Basic
import CallAudit.Settings.Glob
import CallAudit.Text.Blank
import CallAudit.Text.Split

/-!
# Selecting files

Which file names are taken, and which paths are left out.  A pattern for paths
to leave out is held against the whole path; one without a slash, apart from
slashes at its end, is also held against every component of the path.
-/

namespace CallAudit.Settings

/-- Directories of dependencies and build results, which are never entered. -/
def skippedDirectories : List String :=
  ["node_modules", "dist", "build", ".git", ".next", "bower_components",
    "jspm_packages"]

def takes (settings : Settings) (name : String) : Bool :=
  settings.fileGlobs.any fun pattern => globMatches pattern name

/-- The components of a path, with slashes of either direction as dividers. -/
def pathParts (path : String) : List String :=
  Text.split '/' (path.map fun c => if c = '\\' then '/' else c)

def patternExcludes (path pattern : String) : Bool :=
  let bare := Text.trimEnd (· = '/') pattern
  globMatches pattern path ||
    (!bare.toList.contains '/' &&
      (pathParts path).any fun part => globMatches bare part)

def excludes (settings : Settings) (path : String) : Bool :=
  (pathParts path).any skippedDirectories.contains ||
    settings.excludeGlobs.any (patternExcludes path)

end CallAudit.Settings
