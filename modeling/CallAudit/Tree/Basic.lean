/-!
# Syntax trees

A syntax tree is a rose tree of labels.  The label of a node carries all that
the audit may ask about it without looking at its children:

* `kind` is the grammar's name for the construct;
* `field` is the role the node plays in its parent, when it has one;
* `named` separates constructs from bare punctuation and keywords;
* `missing` and `faulty` mark the nodes a parser had to invent and the ones
  that cover a place where the text does not fit the grammar;
* `start` is where the node begins, with its column counted in bytes;
* `text` is the piece of source the node covers.
-/

namespace CallAudit

/-- A place in a source: a row and a column, both counted from zero.  Columns
count bytes. -/
structure Point where
  row : Nat
  column : Nat
  deriving DecidableEq, Repr, Inhabited

/-- A half-open range of bytes of a source. -/
structure Span where
  start : Nat
  stop : Nat
  deriving DecidableEq, Repr, Inhabited

/-- Everything a tree says about one node, its children apart. -/
structure Label where
  kind : String
  field : Option String := none
  named : Bool := true
  missing : Bool := false
  faulty : Bool := false
  span : Span := ⟨0, 0⟩
  start : Point := ⟨0, 0⟩
  text : String := ""
  deriving DecidableEq, Repr, Inhabited

/-- A syntax tree. -/
inductive Node where
  | node (label : Label) (children : List Node)
  deriving Repr

namespace Node

instance : Inhabited Node :=
  ⟨.node default []⟩

@[simp]
def label : Node → Label
  | .node label _ => label

/-- The trees directly below the root, from left to right. -/
@[simp]
def children : Node → List Node
  | .node _ children => children

def kind (tree : Node) : String :=
  tree.label.kind

def field (tree : Node) : Option String :=
  tree.label.field

/-- A named node stands for a construct, not for punctuation. -/
def named (tree : Node) : Bool :=
  tree.label.named

def text (tree : Node) : String :=
  tree.label.text

def start (tree : Node) : Point :=
  tree.label.start

def namedChildren (tree : Node) : List Node :=
  tree.children.filter named

def child? (tree : Node) (role : String) : Option Node :=
  tree.children.find? fun child => child.field == some role

/-- An operand is a construct other than a comment. -/
def isOperand (tree : Node) : Bool :=
  tree.named && tree.kind != "comment"

def withField (role : String) : Node → Node
  | .node label children => .node { label with field := some role } children

def withKind (kind : String) : Node → Node
  | .node label children => .node { label with kind := kind } children

end Node

end CallAudit
