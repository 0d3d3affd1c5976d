import CallAudit.Grammar.Goal

/-!
# Rules that many constructs share

Lists between brackets, property names, templates, signatures and annotations.
-/

namespace CallAudit.Grammar

open Reader

/-- Items between two brackets, separated by commas.  Slots may be empty. -/
def slots (opening closing : String) (item : Reader Node) :
    Reader (List Node) := do
  takeText opening
  let step (state : List Node × Bool) : Reader (Option (List Node × Bool)) := do
    let (items, needsComma) := state
    if ← seesText closing then
      return none
    else if ← optionalMark "," then
      return some (items, false)
    else if needsComma then
      stuck
    else
      return some ((← item) :: items, true)
  let (items, _) ← iterate step (← rounds) ([], false)
  takeText closing
  return items.reverse

/-- Items between two brackets, separated by commas, with no slot empty but
perhaps the last. -/
def items (opening closing : String) (item : Reader Node) :
    Reader (List Node) := do
  takeText opening
  let step (found : List Node) : Reader (Option (List Node)) := do
    if ← seesText closing then
      return none
    let next ← item
    if !(← optionalMark ",") then
      require (← seesText closing)
    return some (next :: found)
  let found ← iterate step (← rounds) []
  takeText closing
  return found.reverse

def commaList (item : Reader Node) : Reader (List Node) := do
  let first ← item
  let rest ← collect do
    if ← optionalMark "," then return some (← item) else return none
  return first :: rest

/-- An item, if a text announces one. -/
def ifText (text : String) (item : Reader Node) : Reader (List Node) := do
  if ← seesText text then return [← item] else return []

def inRole (role : String) (item : Reader Node) : Reader Node := do
  return (← item).withField role

/-! ## Templates -/

/-- The cursor behind the characters of a template that stand for
themselves. -/
def fragmentEnd : List Char → Cursor → Cursor
  | [], cursor => cursor
  | c :: rest, cursor =>
      if c == '\x60' || c == '\\' then cursor
      else if c == '$' && rest.head? == some '\x7b' then cursor
      else fragmentEnd rest (cursor.past c rest)

/-- A piece of a template: an embedded construct, an escape or plain text. -/
def templatePiece (embedded : Reader Node) : Reader (Option Node) := do
  let start ← here
  match start.char? with
  | none => stuck
  | some c =>
      if c == '\x60' then
        return none
      else if c == '\\' then
        match escapeLength? start.rest with
        | none => stuck
        | some length =>
            moveRaw (start.forward length)
            return some (← close "escape_sequence" start [])
      else if start.sees "$\x7b" then
        return some (← embedded)
      else
        moveRaw (fragmentEnd start.rest start)
        return some (← close "string_fragment" start [])

def templateOf (kind : String) (embedded : Reader Node) : Reader Node := do
  let start ← here
  takeTextRaw "`"
  let pieces ← collect (templatePiece embedded)
  takeTextRaw "`"
  settle
  close kind start pieces

def template (rules : Rules) : Reader Node :=
  templateOf "template_string" do
    let start ← here
    takeText "$\x7b"
    let inner ← rules (.sequence .inside)
    takeTextRaw "\x7d"
    close "template_substitution" start [inner]

/-! ## Names of properties -/

def privateName : Reader Node := do
  let start ← here
  require (start.sees "#")
  match wordEnd? start.next with
  | none => stuck
  | some stop =>
      moveTo stop
      return start.nodeTo "private_property_identifier" stop []

def propertyAfterDot : Reader Node := do
  if ← seesText "#" then privateName else anyWord "property_identifier"

/-- The name of a member: a word, a private name, a string, a number or an
expression between brackets. -/
def propertyName (rules : Rules) : Reader Node := do
  let start ← here
  match start.char? with
  | none => stuck
  | some c =>
      if c == '#' then
        privateName
      else if c == '"' || c == '\'' then
        string
      else if c == '[' then
        takeText "["
        let inner ← rules (.expression .inside)
        takeText "]"
        close "computed_property_name" start [inner]
      else if (wordEnd? start).isSome then
        anyWord "property_identifier"
      else
        number

def startsPropertyName (cursor : Cursor) : Bool :=
  match cursor.char? with
  | none => false
  | some c =>
      c == '#' || c == '"' || c == '\'' || c == '[' || c.isDigit ||
        (wordEnd? cursor).isSome

/-! ## Annotations and signatures -/

def typeAnnotation (rules : Rules) : Reader Node := do
  let start ← here
  takeText ":"
  let type ← rules .typeExpr
  close "type_annotation" start [type]

/-- A type annotation in the role of a type, where one stands. -/
def optionalType (rules : Rules) : Reader (List Node) := do
  if (← typed) && (← seesMark ":") then
    return [(← typeAnnotation rules).withField "type"]
  else
    return []

def typePredicate (rules : Rules) : Reader Node := do
  let start ← here
  let subject ←
    if ← seesWord "this" then wordNode "this" else name "identifier"
  takeWord "is"
  let type ← rules .typeExpr
  close "type_predicate" start [subject.withField "name", type.withField "type"]

/-- An assertion that a name has a type, or is truthy. -/
def assertion (rules : Rules) : Reader Node := do
  let start ← here
  takeWord "asserts"
  let claim ← either (typePredicate rules)
    (do if ← seesWord "this" then wordNode "this" else name "identifier")
  close "asserts" start [claim]

def returnedType (rules : Rules) : Reader Node :=
  either (assertion rules) (either (typePredicate rules) (rules .typeExpr))

def returnAnnotation (rules : Rules) : Reader Node := do
  let start ← here
  takeMark ":"
  let asserted ← attempt (assertion rules)
  match asserted with
  | some claim => close "asserts_annotation" start [claim]
  | none =>
      match ← attempt (typePredicate rules) with
      | some claim => close "type_predicate_annotation" start [claim]
      | none => close "type_annotation" start [← rules .typeExpr]

/-- The type parameters, the parameters and the returned type of a function.
`bare` is for parameters that may turn out to be something else, `annotated`
allows a returned type. -/
def signature (rules : Rules) (bare annotated : Bool) :
    Reader (List Node) := do
  let typeParameters ←
    if (← typed) && (← seesText "<") then
      pure [(← rules .typeParameters).withField "type_parameters"]
    else
      pure []
  let parameters ← rules (.parameters bare)
  let returned ←
    if annotated && (← typed) && (← seesMark ":") then
      pure [(← returnAnnotation rules).withField "return_type"]
    else
      pure []
  return typeParameters ++ parameters.withField "parameters" :: returned

def signatureAndBody (rules : Rules) : Reader (List Node) := do
  let parts ← signature rules false true
  let body ← rules .block
  return parts ++ [body.withField "body"]

def initializer (rules : Rules) (around : Surroundings) :
    Reader (List Node) := do
  if ← optionalMark "=" then
    return [(← rules (.expression around)).withField "value"]
  else
    return []

def arguments (rules : Rules) : Reader Node := do
  let start ← here
  let given ← slots "(" ")" do
    let first ← here
    if ← optionalMark "..." then
      close "spread_element" first [← rules (.expression .inside)]
    else
      rules (.expression .inside)
  close "arguments" start given

/-! ## Decorators -/

/-- Properties after a name, as far as they go. -/
def dottedFrom (start : Cursor) (first : Node) : Reader Node := do
  iterate
    (fun object : Node => do
      if ← optionalMark "." then
        let property ← propertyAfterDot
        return some (← close "member_expression" start
          [object.withField "object", property.withField "property"])
      else
        return none)
    (← rounds) first

/-- A decorator: an at sign with a name, an access or a call. -/
def decorator (rules : Rules) : Reader Node := do
  let start ← here
  takeText "@"
  let first ← here
  let base ←
    if ← seesText "(" then
      takeText "("
      let inner ← rules (.sequence .inside)
      takeText ")"
      close "parenthesized_expression" first [inner]
    else
      dottedFrom first (← name "identifier")
  let typeArguments ←
    if (← typed) && (← seesText "<") then
      pure [(← rules .typeArguments).withField "type_arguments"]
    else
      pure []
  if ← seesText "(" then
    let given ← arguments rules
    let call ← close "call_expression" first
      (base.withField "function" :: typeArguments ++
        [given.withField "arguments"])
    close "decorator" start [call]
  else
    close "decorator" start [base]

def decorators (rules : Rules) : Reader (List Node) :=
  collect do
    if ← seesText "@" then
      return some ((← decorator rules).withField "decorator")
    else
      return none

end CallAudit.Grammar
