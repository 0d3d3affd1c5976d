import CallAudit.Grammar.Statement

/-!
# Imports and exports
-/

namespace CallAudit.Grammar

open Reader

def outerName : Reader Node := do
  if (← seesText "\"") || (← seesText "'") then string
  else anyWord "identifier"

def fromClause : Reader Node := do
  takeWord "from"
  inRole "source" string

def importAttribute (rules : Rules) : Reader (List Node) := do
  let start ← here
  if (← seesWordOf ["with", "assert"]) && (← markAfterWord) == "\x7b" then
    let _ ← anyWord "keyword"
    let entries ← object rules
    return [← close "import_attribute" start [entries]]
  else
    return []

def importSpecifier : Reader Node := do
  let start ← here
  let plain : Reader Node := do
    let outer ← outerName
    if ← optionalWord "as" then
      let local_ ← name "identifier"
      close "import_specifier" start
        [outer.withField "name", local_.withField "alias"]
    else
      require (outer.kind == "identifier" && outer.text != "default")
      close "import_specifier" start [outer.withField "name"]
  let ended : Reader Node := do
    let found ← plain
    require ((← seesText ",") || (← seesText "\x7d"))
    return found
  if (← typed) && (← seesWordOf ["type", "typeof"]) then
    either ended do
      let _ ← anyWord "keyword"
      plain
  else
    plain

def namespaceImport : Reader Node := do
  let start ← here
  takeMark "*"
  takeWord "as"
  close "namespace_import" start [← name "identifier"]

def namedImports : Reader Node := do
  let start ← here
  close "named_imports" start (← items "\x7b" "\x7d" importSpecifier)

def importClause : Reader Node := do
  let start ← here
  if ← seesText "*" then
    close "import_clause" start [← namespaceImport]
  else if ← seesText "\x7b" then
    close "import_clause" start [← namedImports]
  else
    let first ← name "identifier"
    if ← optionalMark "," then
      let rest ← if ← seesText "*" then namespaceImport else namedImports
      close "import_clause" start [first, rest]
    else
      close "import_clause" start [first]

def nestedName : Reader Node := do
  let start ← here
  let first ← name "identifier"
  let found ← dottedFrom start first
  if found.kind == "member_expression" then
    return found.withKind "nested_identifier"
  else
    return found

def importAssignment (rules : Rules) (start : Cursor) : Reader Node := do
  let from_ ← here
  let named ← name "identifier"
  takeMark "="
  if (← seesWord "require") && (← markAfterWord) == "(" then
    takeWord "require"
    takeText "("
    let source ← string
    takeText ")"
    let clause ← close "import_require_clause" from_
      [named, source.withField "source"]
    semicolon true
    close "import_statement" start [clause]
  else
    let _ := rules
    let value ← nestedName
    semicolon true
    close "import_alias" start [named, value]

def importNames (rules : Rules) (start : Cursor) : Reader Node := do
  if (← seesText "\"") || (← seesText "'") then
    let source ← inRole "source" string
    let attributes ← importAttribute rules
    semicolon false
    close "import_statement" start (source :: attributes)
  else
    let clause ← importClause
    let source ← fromClause
    let attributes ← importAttribute rules
    semicolon false
    close "import_statement" start (clause :: source :: attributes)

def importStatement (rules : Rules) : Reader Node := do
  let start ← here
  takeWord "import"
  if ← typed then
    either (importAssignment rules start)
      (either (importNames rules start) do
        require (← seesWordOf ["type", "typeof"])
        let _ ← anyWord "keyword"
        either (importNames rules start) (importAssignment rules start))
  else
    either (importNames rules start) do
      require (← seesWordOf ["defer", "source"])
      let _ ← anyWord "keyword"
      importNames rules start

/-! ## Exports -/

def exportSpecifier : Reader Node := do
  let start ← here
  let plain : Reader Node := do
    let inner ← outerName
    if ← optionalWord "as" then
      let outer ← outerName
      close "export_specifier" start
        [inner.withField "name", outer.withField "alias"]
    else
      close "export_specifier" start [inner.withField "name"]
  let ended : Reader Node := do
    let found ← plain
    require ((← seesText ",") || (← seesText "\x7d"))
    return found
  if (← typed) && (← seesWordOf ["type", "typeof"]) then
    either ended do
      let _ ← anyWord "keyword"
      plain
  else
    plain

def exportClause : Reader Node := do
  let start ← here
  close "export_clause" start (← items "\x7b" "\x7d" exportSpecifier)

def exportNames (rules : Rules) (start : Cursor) : Reader Node := do
  if (← typed) && (← seesWord "type") then
    takeWord "type"
  let parts ← do
    if ← seesMark "*" then
      let from_ ← here
      takeMark "*"
      let space ←
        if ← optionalWord "as" then
          let named ← outerName
          pure [← close "namespace_export" from_ [named]]
        else
          pure []
      pure (space ++ [← fromClause])
    else
      let clause ← exportClause
      if ← seesWord "from" then pure [clause, ← fromClause]
      else pure [clause]
  let attributes ← importAttribute rules
  semicolon false
  close "export_statement" start (parts ++ attributes)

def exportDefault (rules : Rules) (declaration? : Reader (Option Node))
    (start : Cursor) (marks : List Node) : Reader Node := do
  takeWord "default"
  match ← attempt declaration? with
  | some (some declared) =>
      close "export_statement" start
        (marks ++ [declared.withField "declaration"])
  | _ =>
      let value ← rules (.expression .statement)
      semicolon true
      close "export_statement" start (marks ++ [value.withField "value"])

def exportTyped (rules : Rules) (start : Cursor) : Reader Node := do
  if ← optionalMark "=" then
    let value ← rules (.expression .statement)
    semicolon true
    close "export_statement" start [value]
  else if ← seesWord "import" then
    takeWord "import"
    let _ ← if ← seesWord "type" then attempt (takeWord "type") else pure none
    let alias_ ← importAssignment rules start
    close "export_statement" start [alias_]
  else
    takeWord "as"
    takeWord "namespace"
    let named ← name "identifier"
    semicolon false
    close "export_statement" start [named]

/-- An export statement; the decorators before it are given, and so is the
reader of declarations. -/
def exportStatement (rules : Rules) (declaration? : Reader (Option Node))
    (start : Cursor) (marks : List Node) : Reader Node := do
  takeWord "export"
  if ← seesWord "default" then
    exportDefault rules declaration? start marks
  else
    let named := exportNames rules start
    let declared : Reader Node := do
      match ← declaration? with
      | some found =>
          close "export_statement" start
            (marks ++ [found.withField "declaration"])
      | none => stuck
    if ← typed then
      either named (either (exportTyped rules start) declared)
    else
      either named declared

end CallAudit.Grammar
