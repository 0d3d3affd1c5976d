import CallAudit.Grammar.Shared

/-!
# Patterns

Targets of declarations and assignments, and parameter lists.
-/

namespace CallAudit.Grammar

open Reader

/-- Kinds of expression that a value can be assigned to. -/
def targetKinds : List String :=
  ["identifier", "undefined", "member_expression", "subscript_expression",
    "non_null_expression"]

/-- A default after a target, if one stands there. -/
def withDefault (rules : Rules) (kind : String) (start : Cursor)
    (target : Node) : Reader Node := do
  if ← optionalMark "=" then
    let value ← rules (.expression .inside)
    close kind start [target.withField "left", value.withField "right"]
  else
    return target

def restPattern (rules : Rules) (bare : Bool) : Reader Node := do
  let start ← here
  takeMark "..."
  let target ← rules (.pattern bare)
  close "rest_pattern" start [target]

def nameTarget : Reader Node := do
  if ← seesWord "undefined" then
    wordNode "undefined"
  else
    name "identifier"

/-- A target: three dots and a target, an object or array pattern, a name, or
something else that can be assigned to. -/
def pattern (rules : Rules) (bare : Bool) : Reader Node := do
  if ← seesMark "..." then
    restPattern rules bare
  else if (← seesText "\x7b") || (← seesText "[") then
    rules (.destructuring bare)
  else if bare then
    nameTarget
  else
    let target ← rules (.chain .inside)
    require (targetKinds.contains target.kind)
    return target

/-- A target, perhaps with a default. -/
def patternWithDefault (rules : Rules) (bare : Bool) : Reader Node := do
  let start ← here
  let target ← rules (.pattern bare)
  withDefault rules "assignment_pattern" start target

def patternEntry (rules : Rules) (bare : Bool) : Reader Node := do
  let start ← here
  if ← seesMark "..." then
    restPattern rules bare
  else
    let key ← propertyName rules
    if ← optionalMark ":" then
      let value ← patternWithDefault rules bare
      close "pair_pattern" start [key.withField "key", value.withField "value"]
    else
      require (key.kind == "property_identifier")
      withDefault rules "object_assignment_pattern" start
        (key.withKind "shorthand_property_identifier_pattern")

def destructuring (rules : Rules) (bare : Bool) : Reader Node := do
  let start ← here
  if start.sees "\x7b" then
    let entries ← slots "\x7b" "\x7d" (patternEntry rules bare)
    close "object_pattern" start entries
  else
    let elements ← slots "[" "]" (patternWithDefault rules bare)
    close "array_pattern" start elements

/-- The name or pattern that a declaration introduces.  Here every word that
is not reserved is a plain name. -/
def declaredName (rules : Rules) : Reader Node := do
  if (← seesText "\x7b") || (← seesText "[") then
    rules (.destructuring true)
  else
    name "identifier"

/-! ## Parameters -/

def accessWords : List String :=
  ["public", "private", "protected"]

def modifiesNext : Reader Bool := do
  match ← afterWord? with
  | none => return false
  | some cursor =>
      return cursor.sees "\x7b" || cursor.sees "[" || cursor.sees "..." ||
        (wordEnd? cursor).isSome

def modifier (kind : String) (words : List String) (modifies : Reader Bool) :
    Reader (List Node) := do
  if (← seesWordOf words) && (← modifies) then
    return [← anyWord kind]
  else
    return []

def typedParameter (rules : Rules) (bare : Bool) : Reader Node := do
  let start ← here
  let marks ← decorators rules
  let access ← modifier "accessibility_modifier" accessWords modifiesNext
  let override ← modifier "override_modifier" ["override"] modifiesNext
  let _ ← modifier "readonly" ["readonly"] modifiesNext
  let target ←
    if ← seesWord "this" then wordNode "this" else rules (.pattern bare)
  let optional ← optionalMark "?"
  let type ← optionalType rules
  let value ← initializer rules .inside
  close (if optional then "optional_parameter" else "required_parameter") start
    (marks ++ access ++ override ++ target.withField "pattern" :: type ++ value)

def parameters (rules : Rules) (bare : Bool) : Reader Node := do
  let start ← here
  let parameter :=
    if (← get).dialect.typed then typedParameter rules bare
    else patternWithDefault rules bare
  let found ← items "(" ")" parameter
  close "formal_parameters" start found

end CallAudit.Grammar
