import CallAudit.Scope.Binding
import CallAudit.Scope.Pattern
import CallAudit.Tree.Walk

/-!
# Declarations

Which constructs open a scope, which constructs declare names, and which scope
owns a declared name.

* Function-like constructs and the program own the `var` variables below them;
  the block of a function shares the scope of its function.
* Every other declaration belongs to the nearest scope around it, except that
  parameters, caught names, loop names and the own names of function and class
  expressions belong to the construct itself, and imports to the whole tree.
-/

namespace CallAudit

/-! ## Scopes -/

def functionScopeKinds : List String :=
  ["program", "function_declaration", "function_expression", "function",
    "generator_function_declaration", "generator_function",
    "arrow_function", "method_definition"]

def blockScopeKinds : List String :=
  ["statement_block", "for_statement", "for_in_statement",
    "catch_clause", "switch_body", "class"]

/-- Function-like constructs whose name is declared around them. -/
def functionDeclarationKinds : List String :=
  ["function_declaration", "generator_function_declaration"]

/-- Function-like constructs whose name is declared inside them. -/
def functionExpressionKinds : List String :=
  ["function_expression", "function", "generator_function"]

def classDeclarationKinds : List String :=
  ["class_declaration", "abstract_class_declaration"]

namespace Site

def isFunctionScope (site : Site) : Bool :=
  functionScopeKinds.contains site.kind

/-- Does a site own declarations that are not hoisted?  The block right below
a function or a catch clause does not: it shares their scope. -/
def isScope (site : Site) : Bool :=
  if site.isFunctionScope then
    true
  else if site.kind == "statement_block" then
    match site.parent? with
    | none => true
    | some parent => !parent.isFunctionScope && parent.kind != "catch_clause"
  else
    blockScopeKinds.contains site.kind

/-- The path of the nearest proper ancestor that owns hoisted variables; the
root when there is none. -/
def hoistedOwner (site : Site) : Path :=
  ((site.above.find? isFunctionScope).map Site.path).getD []

/-- The path of the nearest proper ancestor that is a scope; the root when
there is none. -/
def blockOwner (site : Site) : Path :=
  ((site.above.find? isScope).map Site.path).getD []

end Site

/-! ## What each construct declares -/

/-- A declared name and the scope that owns it. -/
structure Declaration where
  owner : Path
  binding : Binding
  deriving Inhabited

namespace Declaration

def ofName (owner : Path) (kind : BindingKind) (name : Site) : Declaration :=
  ⟨owner, { name := name.text, kind := kind, site := name }⟩

def ofParameter (owner : Path) (bound : BoundName) : Declaration :=
  ⟨owner,
    { name := bound.site.text, kind := .parameterDecl,
      hasDefault := bound.defaulted, site := bound.site }⟩

def ofDeclarator (owner : Path) (declarator : Site) : List Declaration :=
  if declarator.kind == "variable_declarator" then
    match declarator.child? "name" with
    | none => []
    | some pattern =>
        (pattern.boundNames false).map fun bound =>
          ⟨owner,
            { name := bound.site.text, kind := .variableDecl,
              hasInitializer := (declarator.child? "value").isSome,
              site := bound.site }⟩
  else
    []

def ofVariables (owner : Path) (statement : Site) : List Declaration :=
  statement.namedChildren.flatMap (ofDeclarator owner)

/-- The variables of a loop over keys or elements, which hold a value in each
round. -/
def ofLoop (loop : Site) : List Declaration :=
  match loop.child? "kind", loop.child? "left" with
  | some keyword, some pattern =>
      let owner :=
        if keyword.text == "var" then loop.hoistedOwner else loop.path
      (pattern.boundNames false).map fun bound =>
        ofName owner .variableDecl bound.site
  | _, _ => []

def ofFunctionName (function : Site) : List Declaration :=
  match function.child? "name" with
  | none => []
  | some name =>
      if name.kind != "identifier" then
        []
      else if functionDeclarationKinds.contains function.kind then
        [ofName function.blockOwner .functionDecl name]
      else if functionExpressionKinds.contains function.kind then
        [ofName function.path .functionDecl name]
      else
        []

/-- The parameters of a function-like construct: the names in its parameter
list, or its single bare parameter. -/
def ofParameters (function : Site) : List Declaration :=
  match function.child? "parameters" with
  | some parameters =>
      parameters.namedChildren.flatMap fun parameter =>
        (parameter.boundNames false).map (ofParameter function.path)
  | none =>
      match function.child? "parameter" with
      | some parameter =>
          (parameter.boundNames false).map (ofParameter function.path)
      | none => []

/-- The name after a construct's keyword, declared in a given scope. -/
def ofNameChild
    (owner : Path) (kind : BindingKind) (site : Site) : List Declaration :=
  ((site.child? "name").map (ofName owner kind)).toList

def ofImportSpecifier (specifier : Site) : List Declaration :=
  if specifier.kind == "import_specifier" then
    match (specifier.child? "alias").or (specifier.child? "name") with
    | some name =>
        if name.kind == "identifier" then [ofName [] .importDecl name] else []
    | none => []
  else
    []

def ofImportPart (part : Site) : List Declaration :=
  if part.kind == "identifier" then
    [ofName [] .importDecl part]
  else if part.kind == "namespace_import" then
    (part.namedChildren.filter fun child => child.kind == "identifier").map
      (ofName [] .importDecl)
  else if part.kind == "named_imports" then
    part.namedChildren.flatMap ofImportSpecifier
  else
    []

/-- The names that an import statement brings in, owned by the root. -/
def ofImport (statement : Site) : List Declaration :=
  (statement.namedChildren.filter fun clause =>
      clause.kind == "import_clause" || clause.kind == "import_require_clause").flatMap
    fun clause => clause.namedChildren.flatMap ofImportPart

def ofCatch (handler : Site) : List Declaration :=
  match handler.child? "parameter" with
  | some pattern =>
      (pattern.boundNames false).map fun bound =>
        ofName handler.path .catchDecl bound.site
  | none => []

end Declaration

/-- The declarations that a site itself makes, in the order it lists the
names.  Punctuation declares nothing. -/
def Site.declarations (site : Site) : List Declaration :=
  if !site.node.named then
    []
  else if site.kind == "variable_declaration" then
    Declaration.ofVariables site.hoistedOwner site
  else if site.kind == "lexical_declaration" then
    Declaration.ofVariables site.blockOwner site
  else if site.kind == "for_in_statement" then
    Declaration.ofLoop site
  else if functionScopeKinds.contains site.kind && site.kind != "program" then
    Declaration.ofFunctionName site ++ Declaration.ofParameters site
  else if classDeclarationKinds.contains site.kind then
    Declaration.ofNameChild site.blockOwner .classDecl site
  else if site.kind == "class" then
    Declaration.ofNameChild site.path .classDecl site
  else if site.kind == "import_statement" then
    Declaration.ofImport site
  else if site.kind == "catch_clause" then
    Declaration.ofCatch site
  else if site.kind == "enum_declaration" then
    Declaration.ofNameChild site.blockOwner .otherDecl site
  else
    []

def Node.declarations (tree : Node) : List Declaration :=
  tree.walk.flatMap Site.declarations

end CallAudit
