import CallAudit.Risk.Basic
import CallAudit.Risk.Operand
import CallAudit.Scope.Binding

/-!
# Verdicts

The verdict on one argument of a watched call, from the shape of the argument
and the binding of the names in it.  A shape without a rule of its own gets
the lowest grade, so that gaps stay visible.
-/

namespace CallAudit

/-- The names that steer a verdict: calls that are audited, and calls that are
trusted to return a number. -/
structure Vocabulary where
  watched : List String
  safe : List String
  deriving DecidableEq, Repr, Inhabited

namespace Verdict

def ofName (name : String) : Option Binding → Risk
  | none =>
      { level := .high,
        reason := "binding for '" ++ name ++
          "' not found; likely global or undeclared",
        suggestions := [⟨"verify-declaration", [("name", name)]⟩] }
  | some binding =>
      if binding.kind = .variableDecl ∧ !binding.hasInitializer then
        { level := .medium,
          reason := "'" ++ name ++ "' is declared without initial value",
          suggestions := [⟨"add-initializer", [("name", name)]⟩] }
      else if binding.kind = .parameterDecl ∧ !binding.hasDefault then
        { level := .medium,
          reason := "parameter '" ++ name ++ "' has no default value",
          suggestions := [⟨"add-parameter-default", [("name", name)]⟩] }
      else
        .harmless

def ofUnguardedAccess (access : Node) : Risk :=
  { level := .low,
    reason :=
      "accesses a property that may be undefined if the object is absent",
    suggestions :=
      [⟨"optional-chaining",
          [("object", ((access.child? "object").map Node.text).getD ""),
            ("property", access.propertySuffix)]⟩,
        ⟨"coalesce-fallback", [("expression", access.text)]⟩] }

def ofAccess (site : Site) : Risk :=
  if site.node.shortCircuits || site.hasDestructuringDefault then
    .harmless
  else
    ofUnguardedAccess site.node

/-- The verdict on a call: only a watched function can hand on a missing
value, and calls of unknown functions are trusted. -/
def ofCall (vocabulary : Vocabulary) (call : Node) : Risk :=
  match call.child? "function" with
  | none => .harmless
  | some callee =>
      if callee.kind != "identifier" then
        .harmless
      else if vocabulary.safe.contains callee.text then
        .harmless
      else if vocabulary.watched.contains callee.text then
        { level := .low,
          reason := "nested unsafe call " ++ callee.text ++
            "() may propagate an undefined value",
          suggestions := [⟨"verify-nested-call", [("function", callee.text)]⟩] }
      else
        .harmless

/-- The verdict on a leaf: an expression that is neither parenthesized nor a
conditional. -/
def ofLeaf
    (vocabulary : Vocabulary) (resolve : Site → Option Binding)
    (site : Site) : Risk :=
  if site.kind == "number" || site.kind == "string" then
    .harmless
  else if site.kind == "identifier" || site.kind == "undefined" then
    ofName site.text (resolve site)
  else if memberKinds.contains site.kind then
    ofAccess site
  else if site.kind == "call_expression" then
    ofCall vocabulary site.node
  else
    { level := .low,
      reason := "unrecognized argument shape (" ++ site.kind ++ ")" }

def ofBranches (risks : List Risk) : Risk :=
  let level := Level.joinAll (risks.map Risk.level)
  if level = .none then
    .harmless
  else
    { level := level,
      reason := "one or both branches of the conditional carry risk",
      suggestions := risks.flatMap Risk.suggestions }

def ofArgument
    (vocabulary : Vocabulary) (resolve : Site → Option Binding)
    (argument : Site) : Risk :=
  let site := argument.unwrap
  if site.kind == conditionalKind then
    ofBranches (site.leaves.map (ofLeaf vocabulary resolve))
  else
    ofLeaf vocabulary resolve site

end Verdict

end CallAudit
