import CallAudit.Tree.Walk

/-!
# Watched calls

The calls to audit: those whose callee is a bare name among the watched ones.
A call through an object is never one of them.
-/

namespace CallAudit

structure WatchedCall where
  site : Site
  function : String
  deriving Inhabited

def Site.callArguments (call : Site) : List Site :=
  match call.child? "arguments" with
  | none => []
  | some arguments => arguments.operands

def Site.watchedCallee? (watched : List String) (site : Site) :
    Option String :=
  if site.kind == "call_expression" then
    match site.node.child? "function" with
    | none => none
    | some callee =>
        if callee.kind == "identifier" && watched.contains callee.text then
          some callee.text
        else
          none
  else
    none

def Node.watchedCalls (watched : List String) (tree : Node) :
    List WatchedCall :=
  tree.walk.filterMap fun site =>
    (site.watchedCallee? watched).map fun function => ⟨site, function⟩

end CallAudit
