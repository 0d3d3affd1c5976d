import CallAudit.Tree.Basic

/-!
# Sites of a tree

A site is a node together with its place in a whole tree: the path that leads
to it and the ancestors it hangs from.  Two nodes may look alike; their paths
tell them apart.

A path lists child indices from the node up to the root, so the path of the
parent is the tail and the paths of the ancestors are the proper tails.
-/

namespace CallAudit

/-- The way from a node up to the root, as child indices; the root has the
empty path. -/
abbrev Path := List Nat

/-- A node at its place in a tree.  The ancestors start with the parent and
end with the root. -/
structure Site where
  path : Path
  ancestors : List Node
  node : Node
  deriving Inhabited

namespace Site

def root (tree : Node) : Site :=
  ⟨[], [], tree⟩

def kind (site : Site) : String :=
  site.node.kind

def text (site : Site) : String :=
  site.node.text

/-- The sites of a list of siblings, of which the first has the index
`first`. -/
def siblings (path : Path) (ancestors : List Node) (first : Nat) :
    List Node → List Site
  | [] => []
  | child :: rest =>
      ⟨first :: path, ancestors, child⟩ ::
        siblings path ancestors (first + 1) rest

/-- The sites directly below a site, from left to right. -/
def children (site : Site) : List Site :=
  siblings site.path (site.node :: site.ancestors) 0 site.node.children

def namedChildren (site : Site) : List Site :=
  site.children.filter fun child => child.node.named

/-- The sites below a site that stand for constructs other than comments. -/
def operands (site : Site) : List Site :=
  site.children.filter fun child => child.node.isOperand

def child? (site : Site) (role : String) : Option Site :=
  site.children.find? fun child => child.node.field == some role

/-- The proper ancestors on a path, nearest first, each at its own site. -/
def climb : Path → List Node → List Site
  | _ :: path, parent :: ancestors =>
      ⟨path, ancestors, parent⟩ :: climb path ancestors
  | _, _ => []

/-- The sites of the proper ancestors, nearest first. -/
def above (site : Site) : List Site :=
  climb site.path site.ancestors

def parent? (site : Site) : Option Site :=
  site.above.head?

end Site

/-! ## Document order -/

mutual

/-- All sites of a tree in document order: a node comes before its children,
and a child before its right siblings. -/
def Node.sitesAt (path : Path) (ancestors : List Node) : Node → List Site
  | .node label children =>
      ⟨path, ancestors, .node label children⟩ ::
        sitesBelow path (.node label children :: ancestors) 0 children

/-- The sites of a list of siblings and all below them, in document order. -/
def sitesBelow (path : Path) (ancestors : List Node) (first : Nat) :
    List Node → List Site
  | [] => []
  | child :: rest =>
      child.sitesAt (first :: path) ancestors ++
        sitesBelow path ancestors (first + 1) rest

end

def Node.sites (tree : Node) : List Site :=
  tree.sitesAt [] []

end CallAudit
