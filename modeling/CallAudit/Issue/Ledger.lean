import CallAudit.Issue.Basic
import CallAudit.Issue.Call
import CallAudit.Text.Blank
import CallAudit.Text.Column

/-!
# The ledger of a run

An append-only list of issues.  Recording checks that the argument it is about
exists; a harmless verdict leaves no trace.
-/

namespace CallAudit

/-- The issues of a run, in the order they were found. -/
structure Ledger where
  issues : List Issue
  deriving DecidableEq, Repr, Inhabited

/-- An argument index that the call at hand does not have. -/
structure NoSuchArgument where
  index : Int
  function : String
  available : Nat
  deriving DecidableEq, Repr

def NoSuchArgument.message (fault : NoSuchArgument) : String :=
  "argument index " ++ toString fault.index ++ " out of range for " ++
    fault.function ++ "() with " ++ toString fault.available ++ " argument(s)"

namespace Ledger

def empty : Ledger :=
  ⟨[]⟩

def lineContent (lines : Option (List String)) (row : Nat) : String :=
  ((lines.bind fun all => all[row]?).map Text.trim).getD ""

def issueFor
    (file : String) (call : Site) (function : String) (index : Nat)
    (risk : Risk) (lines : Option (List String)) (argument : Site) : Issue :=
  { file := file,
    line := Text.shownLine call.node.start.row,
    column := Text.shownColumn lines call.node.start.row call.node.start.column,
    function := function,
    argument := index + 1,
    risk := risk,
    code := argument.text,
    lineContent := lineContent lines call.node.start.row }

/-- The issue to record for an argument index of a call, if its verdict
carries any risk. -/
def issue?
    (file : String) (call : Site) (function : String) (index : Int)
    (risk : Risk) (lines : Option (List String)) :
    Except NoSuchArgument (Option Issue) :=
  if risk.level = .none then
    .ok none
  else
    let arguments := call.callArguments
    match if index < 0 then none else arguments[index.toNat]? with
    | none => .error ⟨index, function, arguments.length⟩
    | some argument =>
        .ok (some
          (issueFor file call function index.toNat risk lines argument))

def add (ledger : Ledger) (issue : Option Issue) : Ledger :=
  ⟨ledger.issues ++ issue.toList⟩

def record
    (ledger : Ledger) (file : String) (call : Site) (function : String)
    (index : Int) (risk : Risk) (lines : Option (List String)) :
    Except NoSuchArgument Ledger :=
  (issue? file call function index risk lines).map ledger.add

def merge (ledger other : Ledger) : Ledger :=
  ⟨ledger.issues ++ other.issues⟩

def hasHigh (ledger : Ledger) : Bool :=
  ledger.issues.any fun issue => issue.risk.level = .high

end Ledger

end CallAudit
