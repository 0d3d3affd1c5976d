import CallAudit.Grammar.Access

/-!
# Classes

The parts of a class behind its keyword: name, type parameters, heritage and
members.
-/

namespace CallAudit.Grammar

open Reader

/-! ## Heritage -/

/-- One more access or call behind the name of a parent class. -/
def parentStep (rules : Rules) (start : Cursor) (base : Node) :
    Reader (Option Node) := do
  let mark ← punctuation
  if mark == "." then
    takeMark "."
    return some (← memberAfter start base [])
  else if mark == "[" then
    return some (← subscriptAfter rules start base [])
  else if mark == "(" then
    return some (← callAfter rules start base [])
  else if ← seesText "<" then
    let types ← attempt do
      let types ← rules .typeArguments
      require (← seesText "(")
      return types
    match types with
    | some types =>
        return some
          (← callAfter rules start base [types.withField "type_arguments"])
    | none => return none
  else
    return none

/-- A parent class of a typed dialect, with its type arguments. -/
def parentClass (rules : Rules) : Reader (List Node) := do
  let start ← here
  let base ← rules (.constructed .inside)
  let value ← iterate (parentStep rules start) (← rounds) base
  let types ←
    if ← seesText "<" then
      pure [(← rules .typeArguments).withField "type_arguments"]
    else
      pure []
  return value.withField "value" :: types

def implementsClause (rules : Rules) : Reader Node := do
  let start ← here
  takeWord "implements"
  close "implements_clause" start (← commaList (rules .typeExpr))

def heritage (rules : Rules) : Reader (List Node) := do
  let start ← here
  if ← typed then
    let extended ←
      if ← optionalWord "extends" then
        let first ← parentClass rules
        let rest ← collect do
          if ← optionalMark "," then return some (← parentClass rules)
          else return none
        pure [← close "extends_clause" start (first ++ rest.flatten)]
      else
        pure []
    let implemented ←
      if ← seesWord "implements" then pure [← implementsClause rules]
      else pure []
    if extended.isEmpty && implemented.isEmpty then
      return []
    else
      return [← close "class_heritage" start (extended ++ implemented)]
  else if ← optionalWord "extends" then
    return [← close "class_heritage" start [← rules (.expression .inside)]]
  else
    return []

def classNameKind : Reader String := do
  return if ← typed then "type_identifier" else "identifier"

def classRest (rules : Rules) : Reader (List Node) := do
  let named ←
    if (← seesText "\x7b") || (← seesText "<") ||
        (← seesWordOf ["extends", "implements"]) then
      pure []
    else
      pure [(← name (← classNameKind)).withField "name"]
  let types ←
    if (← typed) && (← seesText "<") then
      pure [(← rules .typeParameters).withField "type_parameters"]
    else
      pure []
  let parents ← heritage rules
  let body ← rules .classBody
  return named ++ types ++ parents ++ [body.withField "body"]

/-! ## Members -/

def memberWords (typed : Bool) : List String :=
  if typed then
    ["public", "private", "protected", "static", "override", "readonly",
      "abstract", "declare", "async", "accessor", "get", "set"]
  else
    ["static", "async", "get", "set"]

def memberWordNode (word : Node) : List Node :=
  if accessWords.contains word.text then
    [word.withKind "accessibility_modifier"]
  else if word.text == "override" then
    [word.withKind "override_modifier"]
  else
    []

def memberEnd (typed : Bool) : Reader Unit := do
  if typed && (← optionalMark ",") then
    return
  else
    semicolon false

def indexSignature (rules : Rules) : Reader (List Node) := do
  takeText "["
  let parts ← either
    (do
      let key ← name "identifier"
      takeMark ":"
      let type ← rules .typeExpr
      pure [key.withField "name", type.withField "index_type"])
    (do
      let start ← here
      let key ← name "type_identifier"
      takeWord "in"
      let type ← rules .typeExpr
      let alias_ ←
        if ← optionalWord "as" then
          pure [(← rules .typeExpr).withField "alias"]
        else
          pure []
      pure [← close "mapped_type_clause" start
        (key.withField "name" :: type.withField "type" :: alias_)])
  takeText "]"
  let start ← here
  let sign ← optionalMark "-"
  let plus ← if sign then pure false else optionalMark "+"
  let optional ← optionalMark "?"
  let type ←
    if ← seesMark ":" then
      takeMark ":"
      let type ← rules .typeExpr
      let kind :=
        if sign then "omitting_type_annotation"
        else if plus then "adding_type_annotation"
        else if optional then "opting_type_annotation"
        else "type_annotation"
      pure [(← close kind start [type]).withField "type"]
    else
      pure []
  return parts ++ type

/-- A member without a static block: a method, a signature or a field. -/
def classMember (rules : Rules) : Reader Node := do
  let start ← here
  let isTyped ← typed
  let marks ← decorators rules
  let words ← collect do
    if (← seesWordOf (memberWords isTyped)) && (← modifiesMember) then
      return some (← anyWord "modifier")
    else
      return none
  let leading := marks ++ words.flatMap memberWordNode
  let abstracted := words.any fun word => word.text == "abstract"
  let index ←
    if isTyped && (← seesText "[") then
      attempt do
        let parts ← indexSignature rules
        memberEnd true
        return parts
    else
      pure none
  match index with
  | some parts => close "index_signature" start (leading ++ parts)
  | none =>
      let _ ← optionalMark "*"
      let key ← propertyName rules
      let optional ← if isTyped then optionalMark "?" else pure false
      let _ ← if isTyped && !optional then optionalMark "!" else pure false
      if (← seesText "(") || (isTyped && (← seesText "<")) then
        let parts ← signature rules false true
        if ← seesText "\x7b" then
          let body ← rules .block
          close "method_definition" start
            (leading ++ key.withField "name" :: parts ++ [body.withField "body"])
        else
          require isTyped
          let found ← close
            (if abstracted then "abstract_method_signature"
              else "method_signature")
            start (leading ++ key.withField "name" :: parts)
          memberEnd true
          return found
      else
        let type ← optionalType rules
        let value ← initializer rules .statement
        let found ← close
          (if isTyped then "public_field_definition" else "field_definition")
          start
          (leading ++
            key.withField (if isTyped then "name" else "property") ::
              type ++ value)
        memberEnd isTyped
        return found

def staticBlock (rules : Rules) : Reader Node := do
  let start ← here
  takeWord "static"
  let body ← rules .block
  close "class_static_block" start [body.withField "body"]

def classBody (rules : Rules) : Reader Node := do
  let start ← here
  takeText "\x7b"
  let isTyped ← typed
  let members ← collect do
    let _ ← collect do
      if ← optionalMark ";" then return some () else return none
    if ← seesText "\x7d" then
      return none
    else if (← seesWord "static") && (← markAfterWord) == "\x7b" then
      return some (← staticBlock rules)
    else
      return some (← classMember rules)
  takeText "\x7d"
  close "class_body" start
    (if isTyped then members else members.map (Node.withField "member"))

end CallAudit.Grammar
