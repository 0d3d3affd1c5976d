import CallAudit.Grammar.Module

/-!
# Declarations of the typed dialects

Interfaces, type aliases, enumerations, namespaces and declarations of things
that exist elsewhere.
-/

namespace CallAudit.Grammar

open Reader

def extendedTypes (rules : Rules) : Reader (List Node) := do
  let start ← here
  if ← optionalWord "extends" then
    let types ← commaList (rules .typeExpr)
    return [← close "extends_type_clause" start
      (types.map (Node.withField "type"))]
  else
    return []

def optionalTypeParameters (rules : Rules) : Reader (List Node) := do
  if ← seesText "<" then
    return [(← rules .typeParameters).withField "type_parameters"]
  else
    return []

def interfaceDeclaration (rules : Rules) : Reader Node := do
  let start ← here
  takeWord "interface"
  let named ← name "type_identifier"
  let types ← optionalTypeParameters rules
  let parents ← extendedTypes rules
  let body ← rules (.objectType "interface_body")
  close "interface_declaration" start
    (named.withField "name" :: types ++ parents ++ [body.withField "body"])

def typeAlias (rules : Rules) : Reader Node := do
  let start ← here
  takeWord "type"
  let named ← name "type_identifier"
  let types ← optionalTypeParameters rules
  takeMark "="
  let value ← rules .typeExpr
  semicolon false
  close "type_alias_declaration" start
    (named.withField "name" :: types ++ [value.withField "value"])

def enumMember (rules : Rules) : Reader Node := do
  let start ← here
  let key ← propertyName rules
  if ← seesMark "=" then
    let value ← initializer rules .inside
    close "enum_assignment" start (key.withField "name" :: value)
  else
    return key.withField "name"

def enumDeclaration (rules : Rules) : Reader Node := do
  let start ← here
  let _ ← optionalWord "const"
  takeWord "enum"
  let named ← name "identifier"
  let from_ ← here
  let members ← items "\x7b" "\x7d" (enumMember rules)
  let body ← close "enum_body" from_ members
  close "enum_declaration" start
    [named.withField "name", body.withField "body"]

/-- A namespace, or a module in the older sense. -/
def namespaceDeclaration (rules : Rules) (word kind : String) :
    Reader Node := do
  let start ← here
  takeWord word
  let named ←
    if (← seesText "\"") || (← seesText "'") then string else nestedName
  let body ←
    if ← seesText "\x7b" then
      pure [(← rules .block).withField "body"]
    else
      semicolon false
      pure []
  close kind start (named.withField "name" :: body)

/-- Does a name or a string follow the next word on the same line? -/
def introducesSpace : Reader Bool := do
  match ← afterWord? with
  | none => return false
  | some cursor =>
      return cursor.sees "\"" || cursor.sees "'" ||
        (wordAt? cursor).any fun word => !reservedWords.contains word

def ambientDeclaration (rules : Rules) (declaration? : Reader (Option Node)) :
    Reader Node := do
  let start ← here
  takeWord "declare"
  if (← seesWord "global") && (← markAfterWord) == "\x7b" then
    takeWord "global"
    let body ← rules .block
    close "ambient_declaration" start [body]
  else
    match ← declaration? with
    | some found => close "ambient_declaration" start [found]
    | none => stuck

def typedDeclaration? (rules : Rules) : Reader (Option Node) := do
  match ← word? with
  | some "interface" => return some (← interfaceDeclaration rules)
  | some "enum" => return some (← enumDeclaration rules)
  | some "const" =>
      if (← secondWord?) == some "enum" then
        return some (← enumDeclaration rules)
      else
        return none
  | some "type" =>
      if (← secondWord?).isSome then
        attempt (typeAlias rules)
      else
        return none
  | some "namespace" =>
      if ← introducesSpace then
        attempt (namespaceDeclaration rules "namespace" "internal_module")
      else
        return none
  | some "module" =>
      if ← introducesSpace then
        attempt (namespaceDeclaration rules "module" "module")
      else
        return none
  | _ => return none

/-- A declaration that is no import or export, if one starts here; the
decorators before it are given. -/
def plainDeclaration? (rules : Rules) (start : Cursor) (marks : List Node) :
    Reader (Option Node) := do
  let special ← if ← typed then typedDeclaration? rules else pure none
  match special with
  | some found => return some found
  | none =>
      match ← word? with
      | some "function" => functionDeclaration? rules
      | some "async" => functionDeclaration? rules
      | some "class" =>
          attempt (classDeclaration rules start marks)
      | some "abstract" =>
          if ← typed then
            return some (← classDeclaration rules start marks)
          else
            return none
      | _ => variableList? rules .statement

/-- A declaration, also of something that exists elsewhere. -/
def declaration? (rules : Rules) (start : Cursor) (marks : List Node) :
    Reader (Option Node) := do
  if ← seesText "@" then
    let more ← decorators rules
    return some (← classDeclaration rules start (marks ++ more))
  else if (← typed) && (← seesWord "declare") && (← secondWord?).isSome then
    attempt do
      ambientDeclaration rules do
        plainDeclaration? rules (← here) marks
  else
    plainDeclaration? rules start marks

/-! ## All statements -/

/-- A statement that is neither a declaration nor an import or export. -/
def ordinaryStatement (rules : Rules) : Reader Node := do
  if ← seesText "\x7b" then
    rules .block
  else if ← seesText ";" then
    emptyStatement
  else
    match ← word? with
    | some "if" => ifStatement rules
    | some "switch" => switchStatement rules
    | some "for" => forStatement rules
    | some "while" => whileStatement rules
    | some "do" => doStatement rules
    | some "try" => tryStatement rules
    | some "with" => withStatement rules
    | some "break" => jumpStatement "break" "break_statement"
    | some "continue" => jumpStatement "continue" "continue_statement"
    | some "return" => returnStatement rules
    | some "throw" => throwStatement rules
    | some "debugger" => debuggerStatement
    | some word =>
        if (← markAfterWord) == ":" && !reservedWords.contains word then
          labeledStatement rules
        else
          expressionStatement rules
    | none => expressionStatement rules

def decoratedStatement (rules : Rules) : Reader Node := do
  let start ← here
  let marks ← decorators rules
  if ← seesWord "export" then
    exportStatement rules (do declaration? rules (← here) []) start marks
  else
    classDeclaration rules start marks

def statement (rules : Rules) : Reader Node := do
  skipMargin
  let start ← here
  if ← seesText "@" then
    either (decoratedStatement rules) (expressionStatement rules)
  else if (← seesWord "import") && !(["(", "."].contains (← markAfterWord)) then
    importStatement rules
  else if ← seesWord "export" then
    either
      (exportStatement rules (do declaration? rules (← here) []) start [])
      (ordinaryStatement rules)
  else
    match ← declaration? rules start [] with
    | some found => return found
    | none => ordinaryStatement rules

end CallAudit.Grammar
