import CallAudit.Grammar.ClassParts

/-!
# Types

The types of the typed dialects.
-/

namespace CallAudit.Grammar

open Reader

def builtinTypes : List String :=
  ["any", "number", "boolean", "string", "symbol", "void", "unknown", "never",
    "object"]

/-- One or more types separated by commas, perhaps with a comma at the end. -/
def typeList (rules : Rules) : Reader (List Node) := do
  let first ← rules .typeExpr
  let rest ← collect do
    if !(← optionalMark ",") then return none
    if ← seesText ">" then return none
    return some (← rules .typeExpr)
  return first :: rest

def typeArguments (rules : Rules) : Reader Node := do
  let start ← here
  takeText "<"
  let found ←
    if ← seesText ">" then
      stuck
    else if (← seesWord "const") && (← markAfterWord).startsWith ">" then
      takeWord "const"
      pure []
    else
      typeList rules
  takeText ">"
  close "type_arguments" start found

def typeParameter (rules : Rules) : Reader Node := do
  let start ← here
  if (← seesWord "const") then takeWord "const"
  let named ← name "type_identifier"
  let bound ←
    if ← seesWord "extends" then
      let from_ ← here
      takeWord "extends"
      let type ← rules .typeExpr
      pure [(← close "constraint" from_ [type]).withField "constraint"]
    else
      pure []
  let fallback ←
    if ← seesMark "=" then
      let from_ ← here
      takeMark "="
      let type ← rules .typeExpr
      pure [(← close "default_type" from_ [type]).withField "value"]
    else
      pure []
  close "type_parameter" start (named.withField "name" :: bound ++ fallback)

def typeParameters (rules : Rules) : Reader Node := do
  let start ← here
  let found ← items "<" ">" (typeParameter rules)
  require (!found.isEmpty)
  close "type_parameters" start found

/-! ## Simple types -/

/-- A name of a type, perhaps inside modules and with arguments. -/
def namedType (rules : Rules) : Reader Node := do
  let start ← here
  let first ← name "type_identifier"
  let path ← iterate
    (fun inner : Node => do
      if ← optionalMark "." then
        let property ← anyWord "type_identifier"
        let module_ :=
          if inner.kind == "type_identifier" then
            inner.withKind "identifier"
          else
            inner.withKind "nested_identifier"
        return some (← close "nested_type_identifier" start
          [module_.withField "module", property.withField "name"])
      else
        return none)
    (← rounds) first
  if ← seesText "<" then
    let types ← rules .typeArguments
    close "generic_type" start
      [path.withField "name", types.withField "type_arguments"]
  else
    return path

/-- The type of a value that is named after `typeof`. -/
def typeQuery (rules : Rules) : Reader Node := do
  let start ← here
  takeWord "typeof"
  let first ← here
  let base ←
    if ← seesWord "this" then wordNode "this"
    else if ← seesWord "import" then
      takeWord "import"
      let callee ← close "import" first []
      callAfter rules first callee []
    else name "identifier"
  let query ← iterate
    (fun inner : Node => do
      if (← seesMark ".") || (← seesMark "?.") then
        takeText (← punctuation)
        return some (← memberAfter first inner [])
      else
        return none)
    (← rounds) base
  let types ← ifText "<" (inRole "type_arguments" (rules .typeArguments))
  if types.isEmpty then
    close "type_query" start [query]
  else
    close "type_query" start
      [← close "instantiation_expression" first (query :: types)]

def tupleElement (rules : Rules) : Reader Node := do
  let start ← here
  let spread ← optionalMark "..."
  let labelled ← attempt do
    let label ← name "identifier"
    let optional ← optionalMark "?"
    require (← seesMark ":")
    let type ← typeAnnotation rules
    let role := if optional then "optional_parameter" else "required_parameter"
    close role start [label.withField "name", type.withField "type"]
  match labelled with
  | some element => return element
  | none =>
      let type ← rules .typeExpr
      if spread then
        close "rest_type" start [type]
      else if ← optionalMark "?" then
        close "optional_type" start [type]
      else
        return type

def literalType : Reader Node := do
  let start ← here
  if ← seesMark "-" then
    let operator ← markIn "operator" "-"
    let digits ← number
    let negated ← close "unary_expression" start
      [operator, digits.withField "argument"]
    close "literal_type" start [negated]
  else if (← seesText "\"") || (← seesText "'") then
    close "literal_type" start [← string]
  else if ← seesWordOf ["true", "false", "null", "undefined"] then
    let word := (← word?).getD ""
    close "literal_type" start [← wordNode word]
  else
    close "literal_type" start [← number]

def templateType (rules : Rules) : Reader Node :=
  templateOf "template_literal_type" do
    let start ← here
    takeText "$\x7b"
    let inner ← rules .typeExpr
    takeTextRaw "\x7d"
    close "template_type" start [inner]

/-- A function type from the part before its arrow, or nothing taken. -/
def functionType? (rules : Rules) : Reader (Option Node) := do
  let start ← here
  let parts ← attempt do
    let parts ← signature rules false false
    takeMark "=>"
    return parts
  match parts with
  | none => return none
  | some parts =>
      let returned ← returnedType rules
      return some (← close "function_type" start
        (parts ++ [returned.withField "return_type"]))

def constructorType (rules : Rules) : Reader Node := do
  let start ← here
  let _ ← optionalWord "abstract"
  takeWord "new"
  let parts ← signature rules false false
  takeMark "=>"
  let type ← rules .typeExpr
  close "constructor_type" start (parts ++ [type.withField "type"])

def simpleType (rules : Rules) : Reader Node := do
  let start ← here
  match ← word? with
  | some word =>
      if word == "typeof" then typeQuery rules
      else if word == "new" then constructorType rules
      else if word == "abstract" && (← secondWord?) == some "new" then
        constructorType rules
      else if word == "this" then
        return (← wordNode "this").withKind "this_type"
      else if word == "import" then
        takeWord "import"
        let callee ← close "import" start []
        let call ← callAfter rules start callee []
        dottedFrom start call
      else if ["true", "false", "null", "undefined"].contains word then
        literalType
      else if word == "unique" && (← secondWord?) == some "symbol" then
        takeWord "unique"
        takeWord "symbol"
        close "predefined_type" start []
      else if builtinTypes.contains word && (← markAfterWord) != "." then
        anyWord "predefined_type"
      else
        namedType rules
  | none =>
      match start.char? with
      | none => stuck
      | some c =>
          if c == '(' then
            match ← functionType? rules with
            | some type => return type
            | none =>
                takeText "("
                let inner ← rules .typeExpr
                takeText ")"
                close "parenthesized_type" start [inner]
          else if c == '<' then
            match ← functionType? rules with
            | some type => return type
            | none => stuck
          else if c == '\x7b' then
            rules (.objectType "object_type")
          else if c == '[' then
            let found ← items "[" "]" (tupleElement rules)
            close "tuple_type" start found
          else if c == '\x60' then
            templateType rules
          else if c == '*' then
            takeText "*"
            close "existential_type" start []
          else
            literalType

/-! ## Composed types -/

def bracketStep (rules : Rules) (start : Cursor) (inner : Node) :
    Reader (Option Node) := do
  if (← seesText "[") && !(← endsHere false) then
    takeText "["
    if ← seesText "]" then
      takeText "]"
      return some (← close "array_type" start [inner])
    else
      let index ← rules .typeExpr
      takeText "]"
      return some (← close "lookup_type" start [inner, index])
  else
    return none

/-- A type with the words before it and the brackets behind it. -/
def postfixType (rules : Rules) : Reader Node := do
  let start ← here
  let base ← simpleType rules
  iterate (bracketStep rules start) (← rounds) base

def operatorType (rules : Rules) : Reader Node := do
  let start ← here
  let modifies ← do
    match ← afterWord? with
    | none => pure false
    | some cursor =>
        pure ((wordEnd? cursor).isSome || cursor.sees "(" ||
          cursor.sees "\x7b" || cursor.sees "[" || cursor.sees "'" ||
          cursor.sees "\"")
  if (← seesWordOf ["keyof", "readonly"]) && modifies then
    let word := (← word?).getD ""
    takeWord word
    let words ← collect do
      if ← seesWordOf ["keyof", "readonly"] then
        return some (← anyWord "modifier")
      else
        return none
    let inner ← postfixType rules
    let _ := words
    close (if word == "keyof" then "index_type_query" else "readonly_type")
      start [inner]
  else if (← seesWord "infer") && modifies then
    takeWord "infer"
    let named ← name "type_identifier"
    let bound ←
      if ← seesWord "extends" then
        attempt do
          takeWord "extends"
          let type ← postfixType rules
          require (!(← seesMark "?"))
          return type
      else
        pure none
    close "infer_type" start (named :: bound.toList)
  else
    postfixType rules

def joinedType (mark kind : String) (part : Reader Node) : Reader Node := do
  let start ← here
  let leading ← optionalMark mark
  let first ← part
  let base ← if leading then close kind start [first] else pure first
  iterate
    (fun left : Node => do
      if ← optionalMark mark then
        let right ← part
        return some (← close kind start [left, right])
      else
        return none)
    (← rounds) base

/-- A type: a union of intersections, or a choice between two types that a
test on it decides. -/
def typeExpr (rules : Rules) : Reader Node := do
  let start ← here
  let tested ←
    joinedType "|" "union_type"
      (joinedType "&" "intersection_type" (operatorType rules))
  let choice ←
    if ← seesWord "extends" then
      attempt do
        takeWord "extends"
        let bound ← rules .typeExpr
        takeMark "?"
        let consequence ← rules .typeExpr
        takeMark ":"
        let alternative ← rules .typeExpr
        close "conditional_type" start
          [tested.withField "left", bound.withField "right",
            consequence.withField "consequence",
            alternative.withField "alternative"]
    else
      pure none
  return choice.getD tested

/-! ## Object types -/

/-- The mark behind the last member of an object type may be left out. -/
def typeMemberEnd : Reader Unit := do
  if ← optionalMark "," then
    return
  else
    semicolon false

def typeMember (rules : Rules) : Reader Node := do
  let start ← here
  if (← seesText "(") || (← seesText "<") then
    let parts ← signature rules false true
    close "call_signature" start parts
  else if (← seesWord "new") && ["(", "<"].contains (← markAfterWord) then
    takeWord "new"
    let parts ← signature rules false true
    close "construct_signature" start parts
  else
    if ← optionalMark "-" then
      pure ()
    else
      let _ ← optionalMark "+"
    let words ← collect do
      if (← seesWordOf (memberWords true)) && (← modifiesMember) then
        return some (← anyWord "modifier")
      else
        return none
    let leading := words.flatMap memberWordNode
    let index ←
      if ← seesText "[" then attempt (indexSignature rules) else pure none
    match index with
    | some parts => close "index_signature" start (leading ++ parts)
    | none =>
        let key ← propertyName rules
        let _ ← optionalMark "?"
        if (← seesText "(") || (← seesText "<") then
          let parts ← signature rules false true
          close "method_signature" start
            (leading ++ key.withField "name" :: parts)
        else
          let type ← optionalType rules
          close "property_signature" start
            (leading ++ key.withField "name" :: type)

def objectType (rules : Rules) (kind : String) : Reader Node := do
  let start ← here
  takeText "\x7b"
  let members ← collect do
    let _ ← collect do
      if (← seesMark ";") || (← seesMark ",") then
        takeText (← punctuation)
        return some ()
      else
        return none
    if ← seesText "\x7d" then
      return none
    else
      let member ← typeMember rules
      typeMemberEnd
      return some member
  takeText "\x7d"
  close kind start members

end CallAudit.Grammar
