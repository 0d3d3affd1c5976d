import CallAudit.Grammar.Pattern

/-!
# Functions, methods and object members
-/

namespace CallAudit.Grammar

open Reader

/-- The part of a function after its keyword: a star for a generator, a name
where one stands, the signature and the body. -/
def functionRest (rules : Rules) : Reader (Bool × List Node) := do
  let generator ← optionalMark "*"
  let named ←
    if ← seesText "(" then pure []
    else if (← typed) && (← seesText "<") then pure []
    else pure [(← name "identifier").withField "name"]
  let parts ← signatureAndBody rules
  return (generator, named ++ parts)

def functionExpression (rules : Rules) : Reader Node := do
  let start ← here
  let _ ← optionalWord "async"
  takeWord "function"
  let (generator, parts) ← functionRest rules
  close (if generator then "generator_function" else "function_expression")
    start parts

def arrowBody (rules : Rules) (around : Surroundings) : Reader Node := do
  if ← seesText "\x7b" then rules .block else rules (.expression around)

def arrowFrom (rules : Rules) (around : Surroundings) (start : Cursor)
    (parts : List Node) : Reader Node := do
  let body ← arrowBody rules around
  close "arrow_function" start (parts ++ [body.withField "body"])

/-- Can an arrow, or the returned type before one, start at a cursor? -/
def startsArrow (typed : Bool) (cursor : Cursor) : Bool :=
  cursor.sees "=>" || (typed && cursor.sees ":")

def arrowSignature? (rules : Rules) (around : Surroundings) :
    Reader (Option (List Node)) := do
  let isTyped ← typed
  if (← seesText "(") && !(← bracketMayPrecede (startsArrow isTyped)) then
    return none
  else
    attempt do
      let parts ← signature rules true around.annotated
      takeMark "=>"
      return parts

def arrowParameter : Reader (List Node) := do
  let parameter ← name "identifier"
  takeMark "=>"
  return [parameter.withField "parameter"]

/-! ## Members of objects -/

def methodWords : List String :=
  ["async", "get", "set", "static"]

/-- Is the next word a modifier of a member, that is, does the name of a
member or a star follow it? -/
def modifiesMember : Reader Bool := do
  match ← afterWord? with
  | none => return false
  | some cursor => return cursor.sees "*" || startsPropertyName cursor

def methodModifiers : Reader (List String) := do
  let found ← collect do
    if (← seesWordOf methodWords) && (← modifiesMember) then
      return some (← anyWord "modifier").text
    else
      return none
  return found

/-- A member of an object: spread elements, methods, pairs and short forms. -/
def objectMember (rules : Rules) : Reader Node := do
  let start ← here
  if ← optionalMark "..." then
    close "spread_element" start [← rules (.expression .inside)]
  else
    let marks ← decorators rules
    let words ← methodModifiers
    let star ← optionalMark "*"
    let key ← propertyName rules
    let optional ← if ← typed then optionalMark "?" else pure false
    if (← seesText "(") || ((← typed) && (← seesText "<")) then
      let parts ← signatureAndBody rules
      close "method_definition" start (marks ++ key.withField "name" :: parts)
    else
      require (words.isEmpty && !star && !optional)
      if ← optionalMark ":" then
        let value ← rules (.expression .inside)
        close "pair" start [key.withField "key", value.withField "value"]
      else
        require (key.kind == "property_identifier")
        return key.withKind "shorthand_property_identifier"

def object (rules : Rules) : Reader Node := do
  let start ← here
  let members ← slots "\x7b" "\x7d" (objectMember rules)
  close "object" start members

def array (rules : Rules) : Reader Node := do
  let start ← here
  let elements ← slots "[" "]" do
    let first ← here
    if ← optionalMark "..." then
      close "spread_element" first [← rules (.expression .inside)]
    else
      rules (.expression .inside)
  close "array" start elements

def assignedPattern (rules : Rules) : Reader Node := do
  let target ← rules (.destructuring false)
  require (← seesMark "=")
  return target

/-- An object or an array, or the pattern that an equals sign makes of it. -/
def literalOrPattern (rules : Rules) : Reader Node := do
  let literal := if ← seesText "[" then array rules else object rules
  let assigned (cursor : Cursor) : Bool :=
    punctuationOf cursor.rest == ['=']
  if ← bracketMayPrecede assigned then
    either (assignedPattern rules) literal
  else
    literal

end CallAudit.Grammar
