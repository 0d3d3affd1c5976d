import CallAudit.Text.Split

/-!
# Names of files

Paths are texts with slashes.  This module takes them apart: their components,
their last component and its suffix.
-/

namespace CallAudit.Files

/-- The components of a path that lead somewhere: empty ones and single dots
are left out. -/
def components (path : String) : List String :=
  (Text.split '/' path).filter fun part => part != "" && part != "."

/-- The last component of a path, or nothing for a path without any. -/
def baseName (path : String) : String :=
  (components path).getLast?.getD ""

/-- The part of a name from its last dot on.  A dot at either end of the name
starts no suffix. -/
def suffixOf (name : List Char) : List Char :=
  let tail := name.reverse.takeWhile (· != '.')
  let rest := name.reverse.dropWhile (· != '.')
  if tail.isEmpty || rest.length ≤ 1 then [] else '.' :: tail.reverse

/-- The suffix of the last component of a path, with its letters A to Z made
small. -/
def suffix (path : String) : String :=
  String.ofList ((suffixOf (baseName path).toList).map Char.toLower)

end CallAudit.Files
