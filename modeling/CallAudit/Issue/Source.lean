import CallAudit.Grammar.Dialect
import CallAudit.Issue.Audit
import CallAudit.Settings.Basic
import CallAudit.Text.Split
import CallAudit.Tree.Fault

/-!
# Auditing a source

A source text is freed from its byte order mark, parsed in the dialect of its
file, refused when its tree is faulty, and audited.  The reader of trees is a
parameter, so the audit of a source is a function of the tree it yields.
-/

namespace CallAudit

abbrev TreeReader := Dialect → String → Node

/-- The place where a text does not fit its grammar. -/
structure SourceFault where
  line : Int
  column : Int
  deriving DecidableEq, Repr

/-- The wording for a text that does not fit its grammar. -/
def SourceFault.message (fault : SourceFault) : String :=
  "syntax error at line " ++ toString fault.line ++ ", column " ++
    toString fault.column

inductive AuditFault where
  | source (fault : SourceFault)
  | argument (fault : NoSuchArgument)
  deriving DecidableEq, Repr

namespace Source

def byteOrderMark : Char :=
  Char.ofNat 0xfeff

def withoutMark (source : String) : String :=
  match source.toList with
  | c :: rest => if c = byteOrderMark then String.ofList rest else source
  | [] => source

def faultOf (tree : Node) (text : String) : SourceFault :=
  let blamed := tree.blame
  { line := Text.shownLine blamed.start.row,
    column :=
      Text.shownColumn (some (Text.lines text)) blamed.start.row
        blamed.start.column }

def tree (read : TreeReader) (source file : String) :
    Except SourceFault Node :=
  let text := withoutMark source
  let tree := read (Dialect.ofFile file) text
  if tree.label.faulty then .error (faultOf tree text) else .ok tree

def audit
    (read : TreeReader) (source file : String) (vocabulary : Vocabulary) :
    Except AuditFault Ledger :=
  let text := withoutMark source
  match tree read text file with
  | .error fault => .error (.source fault)
  | .ok root =>
      (Ledger.ofTree root file vocabulary (some (Text.lines text))).mapError
        .argument

end Source

end CallAudit
