import CallAudit.Grammar.Expression

/-!
# Statements

Blocks, loops, branches, jumps and declarations of variables, functions and
classes.
-/

namespace CallAudit.Grammar

open Reader

/-- An expression between parentheses, as statements have them. -/
def condition (rules : Rules) : Reader Node := do
  let start ← here
  takeText "("
  let inner ← rules (.sequence .inside)
  takeText ")"
  close "parenthesized_expression" start [inner]

def block (rules : Rules) : Reader Node := do
  let start ← here
  takeText "\x7b"
  let body ← collect do
    skipMargin
    if ← seesText "\x7d" then return none
    else return some (← rules .statement)
  takeText "\x7d"
  close "statement_block" start body

def expressionStatement (rules : Rules) : Reader Node := do
  let start ← here
  let value ← rules (.sequence .statement)
  semicolon true
  close "expression_statement" start [value]

/-! ## Variables -/

def declarator (rules : Rules) (around : Surroundings) : Reader Node := do
  let start ← here
  let target ← declaredName rules
  if ← typed then
    let _ ← optionalMark "!"
  let type ← optionalType rules
  let value ← initializer rules around
  close "variable_declarator" start
    (target.withField "name" :: type ++ value)

def endsInOperand (declarators : List Node) : Bool :=
  (declarators.getLast?).any fun last => (last.child? "value").isSome

/-- A declaration of variables, with its semicolon. -/
def variableList (rules : Rules) (around : Surroundings) (kind : String)
    (keyword : Reader (List Node)) : Reader Node := do
  let start ← here
  let leading ← keyword
  let declarators ← commaList (declarator rules around)
  semicolon (endsInOperand declarators)
  close kind start (leading ++ declarators)

def startsDeclaredName (cursor : Cursor) : Bool :=
  cursor.sees "\x7b" || cursor.sees "[" ||
    (wordAt? cursor).any fun word =>
      !reservedWords.contains word

/-- Does the next word start a declaration, that is, does a declared name
follow it? -/
def introducesName : Reader Bool := do
  return (← afterWord?).any startsDeclaredName

/-- Does a declaration of resources start here?  The word for it is a name
everywhere else. -/
def introducesResource : Reader Bool := do
  match ← afterWord? with
  | none => return false
  | some cursor =>
      return (wordAt? cursor).any fun word =>
        !(reservedWords.contains word) && word != "of"

def introducesAwaited : Reader Bool := do
  match ← afterWord? with
  | none => return false
  | some second =>
      if wordAt? second == some "using" then
        match wordEnd? second with
        | none => return false
        | some stop =>
            return (wordAt? (skipTrivia stop.left.succ stop []).1).any fun word =>
              !reservedWords.contains word
      else
        return false

def resourceKeyword : Reader (List Node) := do
  if ← seesWord "await" then
    let first ← wordIn "kind" "await"
    let second ← wordIn "kind" "using"
    return [first, second]
  else
    return [← wordIn "kind" "using"]

/-- A declaration of variables, if one starts here. -/
def variableList? (rules : Rules) (around : Surroundings) :
    Reader (Option Node) := do
  match ← word? with
  | some "var" =>
      return some (← variableList rules around "variable_declaration" do
        takeWord "var"
        return [])
  | some "const" =>
      return some (← variableList rules around "lexical_declaration" do
        return [← wordIn "kind" "const"])
  | some "let" =>
      if ← introducesName then
        return some (← variableList rules around "lexical_declaration" do
          return [← wordIn "kind" "let"])
      else
        return none
  | some "using" =>
      if !(← typed) && (← introducesResource) then
        return some
          (← variableList rules around "using_declaration" resourceKeyword)
      else
        return none
  | some "await" =>
      if !(← typed) && (← introducesAwaited) then
        return some
          (← variableList rules around "using_declaration" resourceKeyword)
      else
        return none
  | _ => return none

/-! ## Functions and classes -/

/-- A function declaration, a signature without a body, or nothing when the
function has no name. -/
def functionDeclaration? (rules : Rules) : Reader (Option Node) := do
  let start ← here
  let isTyped ← typed
  let leading ← attempt do
    let _ ← optionalWord "async"
    takeWord "function"
    let generator ← optionalMark "*"
    let named ← name "identifier"
    return (generator, named)
  match leading with
  | none => return none
  | some (generator, named) =>
      let parts ← signature rules false true
      let parts := named.withField "name" :: parts
      if isTyped && !(← seesText "\x7b") then
        semicolon false
        return some (← close "function_signature" start parts)
      else
        let body ← rules .block
        return some (← close
          (if generator then "generator_function_declaration"
            else "function_declaration")
          start (parts ++ [body.withField "body"]))

/-- A class declaration; the decorators before it are given. -/
def classDeclaration (rules : Rules) (start : Cursor) (marks : List Node) :
    Reader Node := do
  let abstracted ←
    if ← typed then optionalWord "abstract" else pure false
  takeWord "class"
  require (!(← seesText "\x7b") && !(← seesWord "extends"))
  let parts ← classRest rules
  close (if abstracted then "abstract_class_declaration" else "class_declaration")
    start (marks ++ parts)

/-! ## Branches and loops -/

def ifStatement (rules : Rules) : Reader Node := do
  let start ← here
  takeWord "if"
  let test ← condition rules
  let consequence ← rules .statement
  let from_ ← here
  let alternative ←
    if ← optionalWord "else" then
      let body ← rules .statement
      pure [(← close "else_clause" from_ [body]).withField "alternative"]
    else
      pure []
  close "if_statement" start
    (test.withField "condition" :: consequence.withField "consequence" ::
      alternative)

def caseBody (rules : Rules) : Reader (List Node) :=
  collect do
    skipMargin
    if (← seesText "\x7d") || (← seesWord "case") ||
        ((← seesWord "default") && (← markAfterWord) == ":") then
      return none
    else
      return some ((← rules .statement).withField "body")

def switchCase (rules : Rules) : Reader Node := do
  let start ← here
  if ← optionalWord "case" then
    let value ← rules (.sequence .inside)
    takeMark ":"
    let body ← caseBody rules
    close "switch_case" start (value.withField "value" :: body)
  else
    takeWord "default"
    takeMark ":"
    close "switch_default" start (← caseBody rules)

def switchStatement (rules : Rules) : Reader Node := do
  let start ← here
  takeWord "switch"
  let value ← condition rules
  let from_ ← here
  takeText "\x7b"
  let cases ← collect do
    if ← seesText "\x7d" then return none
    else return some (← switchCase rules)
  takeText "\x7d"
  let body ← close "switch_body" from_ cases
  close "switch_statement" start
    [value.withField "value", body.withField "body"]

def loopKeyword : Reader (List Node) := do
  match ← word? with
  | some "var" => return [← wordIn "kind" "var"]
  | some "const" => return [← wordIn "kind" "const"]
  | some "let" =>
      require (← introducesName)
      return [← wordIn "kind" "let"]
  | some "using" =>
      require (!(← typed) && (← introducesName))
      resourceKeyword
  | some "await" =>
      require (!(← typed) && (← introducesAwaited))
      resourceKeyword
  | _ => stuck

def loopVariable (rules : Rules) : Reader (List Node) := do
  let leading ← loopKeyword
  let isVar := leading.any fun keyword => keyword.text == "var"
  let target ← declaredName rules
  let value ←
    if isVar then initializer rules { Surroundings.inside with relational := false }
    else pure []
  return leading ++ target.withField "left" :: value

def loopTarget (rules : Rules) : Reader (List Node) := do
  let target ←
    if (← seesText "\x7b") || (← seesText "[") then
      rules (.destructuring false)
    else
      rules (.chain .inside)
  require (isTarget target)
  return [target.withField "left"]

/-- The head of a loop over keys or elements, up to the closing
parenthesis. -/
def loopHead (rules : Rules) : Reader (List Node) := do
  takeText "("
  let target ← either (loopVariable rules) (loopTarget rules)
  let operator ←
    if ← seesWord "in" then wordIn "operator" "in" else wordIn "operator" "of"
  let right ← rules (.sequence .inside)
  takeText ")"
  return target ++ [operator, right.withField "right"]

def emptyStatement : Reader Node := do
  let start ← here
  takeText ";"
  close "empty_statement" start []

def countingHead (rules : Rules) : Reader (List Node) := do
  takeText "("
  let first ← do
    if ← seesText ";" then
      inRole "initializer" emptyStatement
    else
      match ← variableList? rules .inside with
      | some declaration => pure (declaration.withField "initializer")
      | none =>
          let value ← rules (.sequence .inside)
          takeText ";"
          pure (value.withField "initializer")
  let test ← do
    if ← seesText ";" then
      pure [← inRole "condition" emptyStatement]
    else
      let value ← rules (.sequence .inside)
      let mark ← markIn "condition" ";"
      pure [value.withField "condition", mark]
  let step ←
    if ← seesText ")" then pure []
    else pure [← inRole "increment" (rules (.sequence .inside))]
  takeText ")"
  return first :: test ++ step

def forStatement (rules : Rules) : Reader Node := do
  let start ← here
  takeWord "for"
  let _ ← optionalWord "await"
  match ← attempt (loopHead rules) with
  | some head =>
      let body ← rules .statement
      close "for_in_statement" start (head ++ [body.withField "body"])
  | none =>
      let head ← countingHead rules
      let body ← rules .statement
      close "for_statement" start (head ++ [body.withField "body"])

def whileStatement (rules : Rules) : Reader Node := do
  let start ← here
  takeWord "while"
  let test ← condition rules
  let body ← rules .statement
  close "while_statement" start
    [test.withField "condition", body.withField "body"]

def doStatement (rules : Rules) : Reader Node := do
  let start ← here
  takeWord "do"
  let body ← rules .statement
  takeWord "while"
  let test ← condition rules
  let _ ← optionalMark ";"
  close "do_statement" start
    [body.withField "body", test.withField "condition"]

def tryStatement (rules : Rules) : Reader Node := do
  let start ← here
  takeWord "try"
  let body ← rules .block
  let from_ ← here
  let handler ←
    if ← optionalWord "catch" then
      let caught ←
        if ← seesText "(" then
          takeText "("
          let target ← declaredName rules
          let type ← optionalType rules
          takeText ")"
          pure (target.withField "parameter" :: type)
        else
          pure []
      let block ← rules .block
      pure [(← close "catch_clause" from_
        (caught ++ [block.withField "body"])).withField "handler"]
    else
      pure []
  let from_ ← here
  let finalizer ←
    if ← optionalWord "finally" then
      let block ← rules .block
      pure [(← close "finally_clause" from_
        [block.withField "body"]).withField "finalizer"]
    else
      pure []
  close "try_statement" start (body.withField "body" :: handler ++ finalizer)

/-- A statement whose names are looked up in an object first. -/
def withStatement (rules : Rules) : Reader Node := do
  let start ← here
  takeWord "with"
  let object ← condition rules
  let body ← rules .statement
  close "with_statement" start
    [object.withField "object", body.withField "body"]

/-! ## Jumps -/

def jumpStatement (word kind : String) : Reader Node := do
  let start ← here
  takeWord word
  let label ←
    if (← endsHere false) || (← seesText ";") then pure []
    else pure [(← name "statement_identifier").withField "label"]
  semicolon false
  close kind start label

/-- The end of a function, perhaps with a value. -/
def returnStatement (rules : Rules) : Reader Node := do
  let start ← here
  takeWord "return"
  if (← seesText ";") || (← endsHere false) then
    semicolon false
    close "return_statement" start []
  else
    let value ← rules (.sequence .statement)
    semicolon true
    close "return_statement" start [value]

def throwStatement (rules : Rules) : Reader Node := do
  let start ← here
  takeWord "throw"
  let value ← rules (.sequence .statement)
  semicolon true
  close "throw_statement" start [value]

def debuggerStatement : Reader Node := do
  let start ← here
  takeWord "debugger"
  semicolon false
  close "debugger_statement" start []

def labeledStatement (rules : Rules) : Reader Node := do
  let start ← here
  let label ← name "statement_identifier"
  takeMark ":"
  let body ← rules .statement
  close "labeled_statement" start
    [label.withField "label", body.withField "body"]

end CallAudit.Grammar
