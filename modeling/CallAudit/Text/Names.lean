/-!
# Sets of names

A set of names is a list in the order of code points without repetitions, so
two equal sets are equal lists.
-/

namespace CallAudit

/-- Names in the order of code points, each once. -/
abbrev Names := List String

namespace Names

/-- Put a name at its place, unless it is there already. -/
def insert (name : String) : Names → Names
  | [] => [name]
  | head :: rest =>
      if name < head then name :: head :: rest
      else if name = head then head :: rest
      else head :: insert name rest

def ofList (names : List String) : Names :=
  names.foldl (fun set name => insert name set) []

def inter (left right : Names) : Names :=
  left.filter right.contains

end Names

end CallAudit
