import CallAudit.Files.Disk

/-!
# Places

A place is an absolute path in lowest terms: the names that lead to it from the
root, the innermost first, so that going up is dropping the head.  Dots are
worked out on the names alone, whether or not there is anything on the disk.
The root itself is told apart in paths only: both roots are the same directory.
-/

namespace CallAudit

/-- The root that an absolute path starts from.  Exactly two slashes in front of
a path are kept, any other number of them is one. -/
inductive Root where
  | single
  | double
  deriving DecidableEq, Repr

namespace Root

def mark : Root → String
  | .single => "/"
  | .double => "//"

def ofPath (path : String) : Root :=
  match path.toList with
  | '/' :: '/' :: '/' :: _ => .single
  | '/' :: '/' :: _ => .double
  | _ => .single

end Root

/-- The names that lead to a place, the innermost first. -/
abbrev Place := List String

namespace Place

def step (place : Place) (part : String) : Place :=
  if part = "" || part = "." then place
  else if part = ".." then place.tail
  else part :: place

/-- The place that a path names, seen from a working directory. -/
def ofPath (workDir : List String) (path : String) : Place :=
  let start : Place :=
    if path.toList.head? = some '/' then [] else workDir.reverse
  (Text.split '/' path).foldl step start

def path (place : Place) (root : Root) : String :=
  root.mark ++ Text.joinWith "/" place.reverse

def entry? (disk : Disk) (place : Place) : Option Entry :=
  ((Entry.directory disk.root).descend? place.reverse).filter Entry.isThere

end Place

end CallAudit
