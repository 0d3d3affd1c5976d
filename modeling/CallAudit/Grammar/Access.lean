import CallAudit.Grammar.Function

/-!
# Accesses and calls

What may follow an operand directly: properties, indices, arguments and
templates.
-/

namespace CallAudit.Grammar

open Reader

def memberAfter (start : Cursor) (object : Node) (mark : List Node) :
    Reader Node := do
  let property ← propertyAfterDot
  close "member_expression" start
    (object.withField "object" :: mark ++ [property.withField "property"])

def subscriptAfter (rules : Rules) (start : Cursor) (object : Node)
    (mark : List Node) : Reader Node := do
  takeText "["
  let index ← rules (.sequence .inside)
  takeText "]"
  close "subscript_expression" start
    (object.withField "object" :: mark ++ [index.withField "index"])

def callAfter (rules : Rules) (start : Cursor) (callee : Node)
    (between : List Node) : Reader Node := do
  let given ← arguments rules
  close "call_expression" start
    (callee.withField "function" :: between ++ [given.withField "arguments"])

/-- A short-circuiting access or call.  A typed dialect leaves no mark of it
in a call. -/
def optionalAfter (rules : Rules) (start : Cursor) (base : Node) :
    Reader Node := do
  let at_ ← here
  takeMark "?."
  let mark := (at_.nodeTo "optional_chain" (at_.forward 2) []).withField
    "optional_chain"
  if ← seesText "(" then
    callAfter rules start base (if ← typed then [] else [mark])
  else if ← seesText "[" then
    subscriptAfter rules start base [mark]
  else if (← typed) && (← seesText "<") then
    let types ← rules .typeArguments
    callAfter rules start base [types.withField "type_arguments"]
  else
    memberAfter start base [mark]

/-- A template behind the function that gets its pieces. -/
def taggedAfter (rules : Rules) (start : Cursor) (tag : Node) :
    Reader Node := do
  let given ← template rules
  close "call_expression" start
    [tag.withField "function", given.withField "arguments"]

end CallAudit.Grammar
