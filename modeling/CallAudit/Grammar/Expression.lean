import CallAudit.Grammar.ClassParts

/-!
# Expressions

Operands, the accesses and calls that follow them, prefix operators, joining
operators by level, conditionals and sequences.
-/

namespace CallAudit.Grammar

open Reader

/-! ## Operators -/

/-- How tightly an joining operator binds, and whether it groups to the right.
A higher level binds tighter. -/
def operatorLevel? : String → Option (Nat × Bool)
  | "??" => some (1, false)
  | "||" => some (2, false)
  | "&&" => some (3, false)
  | "|" => some (4, false)
  | "^" => some (5, false)
  | "&" => some (6, false)
  | "==" => some (7, false)
  | "!=" => some (7, false)
  | "===" => some (7, false)
  | "!==" => some (7, false)
  | "<" => some (8, false)
  | "<=" => some (8, false)
  | ">" => some (8, false)
  | ">=" => some (8, false)
  | "in" => some (8, false)
  | "instanceof" => some (8, false)
  | "<<" => some (9, false)
  | ">>" => some (9, false)
  | ">>>" => some (9, false)
  | "+" => some (10, false)
  | "-" => some (10, false)
  | "*" => some (11, false)
  | "/" => some (11, false)
  | "%" => some (11, false)
  | "**" => some (12, true)
  | _ => none

def augmentedMarks : List String :=
  ["+=", "-=", "*=", "/=", "%=", "^=", "&=", "|=", ">>=", ">>>=", "<<=",
    "**=", "&&=", "||=", "??="]

def leadingMarks : List String :=
  ["!", "~", "-", "+"]

def leadingWords : List String :=
  ["typeof", "void", "delete"]

/-- May a line break end the expression here, and does it? -/
def brokenOff (around : Surroundings) : Reader Bool := do
  if around.breakable then endsHere true else return false

def joiningOperator? (around : Surroundings) :
    Reader (Option (String × Nat × Bool)) := do
  match ← word? with
  | some word =>
      if (word == "in" && around.relational) || word == "instanceof" then
        return (operatorLevel? word).map fun level => (word, level)
      else
        return none
  | none =>
      let mark ← punctuation
      return (operatorLevel? mark).map fun level => (mark, level)

/-- A type cast behind an operand, in a typed dialect. -/
def castStep (rules : Rules) (start : Cursor) (operand : Node) :
    Reader (Option Node) := do
  if ← optionalWord "as" then
    if ← optionalWord "const" then
      return some (← close "as_expression" start [operand])
    else
      let type ← rules .typeExpr
      return some (← close "as_expression" start [operand, type])
  else if ← optionalWord "satisfies" then
    let type ← rules .typeExpr
    return some (← close "satisfies_expression" start [operand, type])
  else
    return none

def operationStep (rules : Rules) (around : Surroundings) (level : Nat)
    (start : Cursor) (left : Node) : Reader (Option Node) := do
  if ← brokenOff around then
    return none
  match ← joiningOperator? around with
  | some (text, bound, toRight) =>
      if bound < level then
        return none
      else
        let operator ←
          if (← word?).isSome then wordIn "operator" text
          else markIn "operator" text
        let right ←
          rules (.operation around (if toRight then bound else bound + 1))
        return some (← close "binary_expression" start
          [left.withField "left", operator, right.withField "right"])
  | none =>
      if level == 0 && (← typed) then castStep rules start left
      else return none

/-- Operands joined by joining operators of at least a level. -/
def operation (rules : Rules) (around : Surroundings) (level : Nat) :
    Reader Node := do
  skipMargin
  let start ← here
  let first ← rules (.unary around)
  iterate (operationStep rules around level start) (← rounds) first

/-- The first branch of a conditional and the colon behind it.  A branch that
took the colon for the start of a returned type is read again without
returned types. -/
def consequence (rules : Rules) : Reader Node := do
  let start ← get
  let branch ← rules (.expression .inside)
  if (← seesMark ":") || !(← typed) then
    takeMark ":"
    return branch
  else
    set start
    let plain ←
      rules (.expression { Surroundings.inside with annotated := false })
    takeMark ":"
    return plain

/-- An expression: an operation, or a conditional whose condition it is. -/
def expression (rules : Rules) (around : Surroundings) : Reader Node := do
  skipMargin
  let start ← here
  let condition ← rules (.operation around 0)
  if ← brokenOff around then
    return condition
  else if ← optionalMark "?" then
    let chosen ← consequence rules
    let alternative ← rules (.expression around)
    close "ternary_expression" start
      [condition.withField "condition", chosen.withField "consequence",
        alternative.withField "alternative"]
  else
    return condition

def sequence (rules : Rules) (around : Surroundings) : Reader Node := do
  skipMargin
  let start ← here
  let found ← commaList (rules (.expression around))
  match found with
  | [single] => return single
  | several => close "sequence_expression" start several

/-! ## Prefix operators and assignments -/

/-- Can an operand start at the next token?  Used after words that may also
stand alone. -/
def startsOperand : Reader Bool := do
  let cursor ← here
  match wordAt? cursor with
  | some word =>
      return !(["in", "instanceof", "of", "as", "satisfies"].contains word)
  | none =>
      match cursor.char? with
      | none => return false
      | some c =>
          return !(")]\x7d,;:.=?*%^|&>".toList.contains c) &&
            !(cursor.sees "!=")

/-- A yielded value; the value may be left out. -/
def yielded (rules : Rules) (around : Surroundings) : Reader Node := do
  let start ← here
  takeWord "yield"
  if ← optionalMark "*" then
    close "yield_expression" start [← rules (.expression around)]
  else if (← brokenOff around) || !(← startsOperand) then
    close "yield_expression" start []
  else
    close "yield_expression" start [← rules (.expression around)]

def isTarget (node : Node) : Bool :=
  targetKinds.contains node.kind || node.kind == "object_pattern" ||
    node.kind == "array_pattern" || node.kind == "parenthesized_expression"

/-- An operand with its accesses and calls, or an assignment to it. -/
def assignment (rules : Rules) (around : Surroundings) : Reader Node := do
  let start ← here
  let target ← rules (.chain around)
  let mark ← punctuation
  if mark == "=" && isTarget target then
    takeMark "="
    let value ← rules (.expression around)
    close "assignment_expression" start
      [target.withField "left", value.withField "right"]
  else if augmentedMarks.contains mark && isTarget target then
    let operator ← markIn "operator" mark
    let value ← rules (.expression around)
    close "augmented_assignment_expression" start
      [target.withField "left", operator, value.withField "right"]
  else
    return target

/-- An arrow function with type parameters, if one starts here. -/
def genericArrow? (rules : Rules) (around : Surroundings) (start : Cursor) :
    Reader (Option Node) := do
  match ← arrowSignature? rules around with
  | some parts => return some (← arrowFrom rules around start parts)
  | none => return none

/-- A type between angle brackets and the operand it is asserted of. -/
def typeAssertion (rules : Rules) (around : Surroundings) : Reader Node := do
  let start ← here
  match ← genericArrow? rules around start with
  | some arrow => return arrow
  | none =>
      let types ← rules .typeArguments
      let operand ← rules (.unary around)
      close "type_assertion" start [types, operand]

def unary (rules : Rules) (around : Surroundings) : Reader Node := do
  skipMargin
  let start ← here
  match ← word? with
  | some word =>
      if leadingWords.contains word then
        let operator ← wordIn "operator" word
        let operand ← rules (.unary around)
        close "unary_expression" start
          [operator, operand.withField "argument"]
      else if word == "yield" then
        yielded rules around
      else if word == "await" then
        let awaited ← attempt do
          takeWord "await"
          require (← startsOperand)
          rules (.unary around)
        match awaited with
        | some operand => close "await_expression" start [operand]
        | none => assignment rules around
      else
        assignment rules around
  | none =>
      let mark ← punctuation
      if leadingMarks.contains mark then
        let operator ← markIn "operator" mark
        let operand ← rules (.unary around)
        close "unary_expression" start
          [operator, operand.withField "argument"]
      else if mark == "++" || mark == "--" then
        let operator ← markIn "operator" mark
        let operand ← rules (.unary around)
        close "update_expression" start
          [operator, operand.withField "argument"]
      else if (← get).dialect == .typescript && start.sees "<" then
        typeAssertion rules around
      else
        assignment rules around

/-! ## Operands -/

/-- A word as an operand: a name, or the parameter of an arrow function. -/
def nameOrArrow (rules : Rules) (around : Surroundings) : Reader Node := do
  let start ← here
  if (← markAfterWord) == "=>" then
    arrowFrom rules around start (← arrowParameter)
  else
    name "identifier"

/-- What may start with the word `async`. -/
def asyncOperand (rules : Rules) (around : Surroundings) : Reader Node := do
  let start ← here
  if (← secondWord?) == some "function" then
    functionExpression rules
  else
    let parts ← attempt do
      takeWord "async"
      if (← word?).isSome then
        arrowParameter
      else
        let parts ← signature rules true around.annotated
        takeMark "=>"
        return parts
    match parts with
    | some parts => arrowFrom rules around start parts
    | none => nameOrArrow rules around

/-- What may start with the word `import` inside an expression. -/
def importOperand : Reader Node := do
  let start ← here
  takeWord "import"
  if ← optionalMark "." then
    let property ← anyWord "property_identifier"
    require (property.text == "meta")
    close "meta_property" start []
  else
    require (← seesText "(")
    close "import" start []

/-- A construction, behind which accesses and calls may follow. -/
def construction (rules : Rules) (around : Surroundings) : Reader Node := do
  let start ← here
  takeWord "new"
  if ← optionalMark "." then
    takeWord "target"
    close "meta_property" start []
  else
    let callee ← rules (.constructed around)
    let types ←
      if (← typed) && (← seesText "<") then
        match ← attempt (rules .typeArguments) with
        | some types => pure [types.withField "type_arguments"]
        | none => pure []
      else
        pure []
    let given ←
      if (← seesText "(") && !(← brokenOff around) then
        pure [(← arguments rules).withField "arguments"]
      else
        pure []
    close "new_expression" start
      (callee.withField "constructor" :: types ++ given)

/-- A parenthesized expression, or an arrow function whose parameters the
parentheses hold. -/
def parenthesized (rules : Rules) (around : Surroundings) : Reader Node := do
  let start ← here
  match ← arrowSignature? rules around with
  | some parts => arrowFrom rules around start parts
  | none =>
      takeText "("
      let inner ← rules (.sequence .inside)
      let type ← optionalType rules
      takeText ")"
      close "parenthesized_expression" start (inner :: type)

def classOperand (rules : Rules) : Reader Node := do
  let start ← here
  let marks ← decorators rules
  takeWord "class"
  let parts ← classRest rules
  close "class" start (marks ++ parts)

/-- A markup element, or an arrow function with type parameters. -/
def elementOperand (rules : Rules) (around : Surroundings) : Reader Node := do
  let start ← here
  let arrow ←
    if ← typed then genericArrow? rules around start else pure none
  match arrow with
  | some arrow => return arrow
  | none =>
      let element ← rules .element
      settle
      return element

def operandWords : List String :=
  ["this", "super", "null", "true", "false", "undefined"]

def operand (rules : Rules) (around : Surroundings) : Reader Node := do
  let cursor ← here
  match ← word? with
  | some word =>
      if word == "function" then functionExpression rules
      else if word == "async" then asyncOperand rules around
      else if word == "class" then classOperand rules
      else if word == "new" then construction rules around
      else if word == "import" then importOperand
      else if operandWords.contains word then wordNode word
      else nameOrArrow rules around
  | none =>
      match cursor.char? with
      | none => stuck
      | some c =>
          if c == '(' then parenthesized rules around
          else if c == '[' || c == '\x7b' then literalOrPattern rules
          else if c == '"' || c == '\'' then string
          else if c == '\x60' then template rules
          else if c == '/' then regex
          else if c == '@' then classOperand rules
          else if c == '#' then
            let key ← privateName
            require (← seesWord "in")
            return key
          else if c == '<' && (← markup) then elementOperand rules around
          else number

/-! ## Chains -/

/-- Types between angle brackets behind an operand, and the call they belong
to. -/
def typedCallAfter? (rules : Rules) (start : Cursor) (base : Node) :
    Reader (Option Node) := do
  let types ← attempt do
    let types ← rules .typeArguments
    let next ← here
    require (next.sees "(" || !(← startsOperand))
    return types
  match types with
  | none => return none
  | some types =>
      if ← seesText "(" then
        return some
          (← callAfter rules start base [types.withField "type_arguments"])
      else
        return some (← close "instantiation_expression" start
          [base, types.withField "type_arguments"])

/-- One more property, index or template behind the callee of a
construction. -/
def constructedStep (rules : Rules) (around : Surroundings) (start : Cursor)
    (base : Node) : Reader (Option Node) := do
  if ← brokenOff around then
    return none
  let mark ← punctuation
  if mark == "." then
    takeMark "."
    return some (← memberAfter start base [])
  else if mark == "[" then
    return some (← subscriptAfter rules start base [])
  else if mark == "`" then
    return some (← taggedAfter rules start base)
  else if mark == "!" && (← typed) then
    takeMark "!"
    return some (← close "non_null_expression" start [base])
  else
    return none

def constructed (rules : Rules) (around : Surroundings) : Reader Node := do
  let start ← here
  let base ← operand rules around
  iterate (constructedStep rules around start) (← rounds) base

/-- One more access, call or operator behind an operand. -/
def chainStep (rules : Rules) (around : Surroundings) (start : Cursor)
    (base : Node) : Reader (Option Node) := do
  if ← brokenOff around then
    return none
  let mark ← punctuation
  if mark == "?." then
    return some (← optionalAfter rules start base)
  else if mark == "(" then
    return some (← callAfter rules start base [])
  else if mark == "++" || mark == "--" then
    let operator ← markIn "operator" mark
    return some (← close "update_expression" start
      [base.withField "argument", operator])
  else if (← typed) && (← seesText "<") then
    typedCallAfter? rules start base
  else
    constructedStep rules around start base

def chain (rules : Rules) (around : Surroundings) : Reader Node := do
  skipMargin
  let start ← here
  let base ← operand rules around
  iterate (chainStep rules around start) (← rounds) base

end CallAudit.Grammar
