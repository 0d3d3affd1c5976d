import CallAudit.Tree.Site

/-!
# Names of binding patterns

A binding pattern is a name, or an arrangement of smaller patterns: a default,
a renamed property, a rest element, an object or array of patterns, or a typed
parameter.  This module lists the names a pattern binds, each with the answer
to one question: is the name sure to get a value even when the matched value
lacks one?
-/

namespace CallAudit

structure BoundName where
  site : Site
  defaulted : Bool
  deriving Inhabited

def Node.isPlainName (pattern : Node) : Bool :=
  pattern.kind == "identifier" ||
    pattern.kind == "shorthand_property_identifier_pattern"

def Node.isDefaultPattern (pattern : Node) : Bool :=
  pattern.kind == "assignment_pattern" ||
    pattern.kind == "object_assignment_pattern"

def Node.isGroupPattern (pattern : Node) : Bool :=
  pattern.kind == "object_pattern" || pattern.kind == "array_pattern"

def Node.isTypedParameter (pattern : Node) : Bool :=
  pattern.kind == "required_parameter" || pattern.kind == "optional_parameter"

mutual

/-- The names that a pattern binds, from left to right.  A default counts for
a name only when the name stands directly before it; a rest element always
has a value. -/
def Node.boundNamesAt
    (path : Path) (ancestors : List Node) (defaulted : Bool) :
    Node → List BoundName
  | .node label children =>
      let pattern := Node.node label children
      let below := pattern :: ancestors
      if pattern.isPlainName then
        [⟨⟨path, ancestors, pattern⟩, defaulted⟩]
      else if pattern.isDefaultPattern then
        boundNamesIn path below "left"
          (fun left => defaulted || left.isPlainName) 0 children
      else if pattern.kind == "pair_pattern" then
        boundNamesIn path below "value" (fun _ => defaulted) 0 children
      else if pattern.kind == "rest_pattern" then
        boundNamesAmong path below true 0 children
      else if pattern.isGroupPattern then
        boundNamesAmong path below defaulted 0 children
      else if pattern.isTypedParameter then
        boundNamesIn path below "pattern"
          (fun inner =>
            defaulted ||
              ((pattern.child? "value").isSome && inner.isPlainName))
          0 children
      else
        []

/-- The names bound by the first sibling with a given role; `rule` says
whether they start out defaulted. -/
def boundNamesIn
    (path : Path) (ancestors : List Node) (role : String)
    (rule : Node → Bool) (first : Nat) :
    List Node → List BoundName
  | [] => []
  | child :: rest =>
      if child.field == some role then
        child.boundNamesAt (first :: path) ancestors (rule child)
      else
        boundNamesIn path ancestors role rule (first + 1) rest

def boundNamesAmong
    (path : Path) (ancestors : List Node) (defaulted : Bool) (first : Nat) :
    List Node → List BoundName
  | [] => []
  | child :: rest =>
      (if child.named then
        child.boundNamesAt (first :: path) ancestors defaulted
      else
        []) ++
        boundNamesAmong path ancestors defaulted (first + 1) rest

end

def Site.boundNames (site : Site) (defaulted : Bool) : List BoundName :=
  site.node.boundNamesAt site.path site.ancestors defaulted

end CallAudit
