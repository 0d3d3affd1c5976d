import CallAudit.Tree.Site

/-!
# Bindings

What a name stands for at a place of a program: the kind of declaration that
introduced it, and whether it is sure to hold a value.
-/

namespace CallAudit

/-- The kinds of declaration that can introduce a name. -/
inductive BindingKind where
  | variableDecl
  | parameterDecl
  | functionDecl
  | classDecl
  | importDecl
  | catchDecl
  | otherDecl
  deriving DecidableEq, Repr, Inhabited

/-- The declaration that a name resolves to. -/
structure Binding where
  name : String
  kind : BindingKind
  hasInitializer : Bool := true
  hasDefault : Bool := false
  site : Site := default
  deriving Inhabited

end CallAudit
