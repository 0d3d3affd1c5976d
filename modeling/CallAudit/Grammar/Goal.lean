import CallAudit.Grammar.Literal
import CallAudit.Grammar.Outlook

/-!
# Goals

The constructs that may contain themselves.  Each rule of the grammar is an
ordinary function that gets, as its first argument, a reader for every goal;
the rules refer to one another through it only.  Tying the rules together is
then a single recursion on the number of levels that are left.
-/

namespace CallAudit.Grammar

structure Surroundings where
  /-- May `in` be an operator? -/
  relational : Bool := true
  /-- May a line break end the expression? -/
  breakable : Bool := true
  /-- May a parameter list be followed by a type? -/
  annotated : Bool := true
  deriving Inhabited

/-- Between brackets, no line break ends an expression. -/
def Surroundings.inside : Surroundings :=
  { breakable := false }

def Surroundings.statement : Surroundings :=
  {}

/-- Constructs that may contain themselves. -/
inductive Goal where
  /-- An expression without commas. -/
  | expression (around : Surroundings)
  /-- Expressions separated by commas. -/
  | sequence (around : Surroundings)
  /-- Operands and operators that bind at least as tightly as a level. -/
  | operation (around : Surroundings) (level : Nat)
  /-- An operand with its prefix operators. -/
  | unary (around : Surroundings)
  /-- An operand with the accesses and calls after it. -/
  | chain (around : Surroundings)
  /-- The callee of a construction. -/
  | constructed (around : Surroundings)
  /-- A target of an assignment or a declaration; `bare` allows names and
  patterns only. -/
  | pattern (bare : Bool)
  /-- A parameter list. -/
  | parameters (bare : Bool)
  /-- An object or array pattern. -/
  | destructuring (bare : Bool)
  /-- A statement. -/
  | statement
  /-- Statements between braces. -/
  | block
  /-- The members of a class between braces. -/
  | classBody
  /-- A type. -/
  | typeExpr
  /-- Types between angle brackets. -/
  | typeArguments
  /-- Type parameters between angle brackets. -/
  | typeParameters
  /-- The members of an object type between braces. -/
  | objectType (kind : String)
  /-- A markup element. -/
  | element

abbrev Rules := Goal → Reader Node

end CallAudit.Grammar
