import CallAudit.Issue.Ledger
import CallAudit.Risk.Verdict
import CallAudit.Scope.Table

/-!
# Auditing a tree

Every argument of every watched call of a tree gets a verdict, in document
order, and each verdict above harmless becomes an issue.
-/

namespace CallAudit

def WatchedCall.verdicts
    (vocabulary : Vocabulary) (resolve : Site → Option Binding)
    (call : WatchedCall) : List Risk :=
  call.site.callArguments.map (Verdict.ofArgument vocabulary resolve)

/-- Record the verdicts on the arguments of a call, of which the first has
the index `first`. -/
def Ledger.recordAll
    (file : String) (lines : Option (List String)) (call : WatchedCall) :
    Ledger → Nat → List Risk → Except NoSuchArgument Ledger
  | ledger, _, [] => .ok ledger
  | ledger, first, risk :: rest => do
      let next ← ledger.record file call.site call.function first risk lines
      Ledger.recordAll file lines call next (first + 1) rest

def Ledger.auditCall
    (file : String) (lines : Option (List String)) (vocabulary : Vocabulary)
    (resolve : Site → Option Binding) (ledger : Ledger) (call : WatchedCall) :
    Except NoSuchArgument Ledger :=
  Ledger.recordAll file lines call ledger 0 (call.verdicts vocabulary resolve)

def Ledger.ofTree
    (tree : Node) (file : String) (vocabulary : Vocabulary)
    (lines : Option (List String)) : Except NoSuchArgument Ledger :=
  let table := ScopeTable.ofTree tree
  (tree.watchedCalls vocabulary.watched).foldlM
    (Ledger.auditCall file lines vocabulary table.resolve) .empty

end CallAudit
