import CallAudit.Grammar.Declare
import CallAudit.Grammar.Element
import CallAudit.Grammar.TypeExpr

/-!
# Parsing

The rules are tied together level by level: a goal at one level is read by its
rule with the goals of the level below.  A source has fewer levels than a fixed
multiple of its characters, which is the number of levels a parse starts with.

A source that does not fit yields a faulty tree with the place where reading
got stuck.
-/

namespace CallAudit.Grammar

open Reader

/-- The rule of a goal, from readers for all goals. -/
def rule (rules : Rules) : Goal → Reader Node
  | .expression around => expression rules around
  | .sequence around => sequence rules around
  | .operation around level => operation rules around level
  | .unary around => unary rules around
  | .chain around => chain rules around
  | .constructed around => constructed rules around
  | .pattern bare => pattern rules bare
  | .parameters bare => parameters rules bare
  | .destructuring bare => destructuring rules bare
  | .statement => statement rules
  | .block => block rules
  | .classBody => classBody rules
  | .typeExpr => typeExpr rules
  | .typeArguments => typeArguments rules
  | .typeParameters => typeParameters rules
  | .objectType kind => objectType rules kind
  | .element => element rules

/-- A reader for every goal with a number of levels to go. -/
def rulesAt : Nat → Rules
  | 0 => fun _ => stuck
  | levels + 1 => fun goal => rule (rulesAt levels) goal

def program (rules : Rules) : Reader Node := do
  let start := (← here).skipWhile isGap
  let leading ←
    if start.sees "#!" then
      let stop := start.skipWhile fun c => c != '\n' && c != '\r'
      moveTo stop
      pure [start.nodeTo "hash_bang_line" stop []]
    else
      settle
      pure []
  let statements ← collect do
    skipMargin
    if (← here).atEnd then return none
    else return some (← rules .statement)
  close "program" start (leading ++ statements)

/-! ## Comments -/

mutual

/-- Put comments into a tree: each goes to the innermost node around it.
Comments are in order; the ones behind the tree are handed back. -/
def weave : Node → List Node → Node × List Node
  | .node label children, comments =>
      let (inside, rest) := comments.span fun comment =>
        comment.label.span.start < label.span.stop
      if inside.isEmpty then
        (.node label children, comments)
      else
        (.node label (weaveAmong children inside), rest)

def weaveAmong : List Node → List Node → List Node
  | [], comments => comments
  | child :: rest, comments =>
      let (before, others) := comments.span fun comment =>
        comment.label.span.start < child.label.span.start
      let (woven, later) := weave child others
      before ++ woven :: weaveAmong rest later

end

/-! ## Trees -/

def faultyTree (text : String) (place : Cursor) : Node :=
  let front := Cursor.front text
  let stop := front.forward front.left
  let fault := place.nodeTo "ERROR" stop []
  .node
    { kind := "program", faulty := true, span := ⟨0, stop.offset⟩,
      text := text }
    [.node { fault.label with faulty := true } []]

/-- The number of levels to start with for a source of a given length. -/
def levelsFor (length : Nat) : Nat :=
  16 * length + 64

def parse (dialect : Dialect) (text : String) : Node :=
  let front := Cursor.front text
  let state : State := ⟨dialect, front, front, []⟩
  match program (rulesAt (levelsFor front.left)) state with
  | .error place => faultyTree text place
  | .ok (tree, final) =>
      let label :=
        { tree.label with
          span := ⟨tree.label.span.start, final.here.offset⟩, text := text }
      .node label (weaveAmong tree.children final.comments.reverse)

end CallAudit.Grammar
