import CallAudit.Tree.Site

/-!
# Walking through a tree

The walk through a tree keeps a stack of the sites that are still to be
visited, the next one on top.  Visiting a site puts its children on top of the
stack, the leftmost first.

The walk ends because every visit takes one node off the nodes that are at or
below the sites of the stack.
-/

namespace CallAudit

mutual

def Node.size : Node → Nat
  | .node _ children => sizeAmong children + 1

def sizeAmong : List Node → Nat
  | [] => 0
  | child :: rest => child.size + sizeAmong rest

end

theorem Node.size_eq (tree : Node) :
    tree.size = sizeAmong tree.children + 1 := by
  cases tree with
  | node label children =>
      rw [Node.size, Node.children]

theorem sizeAmong_append (left right : List Node) :
    sizeAmong (left ++ right) = sizeAmong left + sizeAmong right := by
  induction left with
  | nil =>
      simp [sizeAmong]
  | cons child rest inductionHypothesis =>
      rw [List.cons_append, sizeAmong, sizeAmong, inductionHypothesis]
      omega

namespace Site

theorem map_node_siblings
    (path : Path) (ancestors : List Node) (first : Nat) (nodes : List Node) :
    (siblings path ancestors first nodes).map Site.node = nodes := by
  induction nodes generalizing first with
  | nil =>
      rfl
  | cons child rest inductionHypothesis =>
      rw [siblings, List.map_cons, inductionHypothesis]

@[simp]
theorem map_node_children (site : Site) :
    site.children.map Site.node = site.node.children :=
  map_node_siblings _ _ _ _

/-- The number of nodes at and below the sites of a stack. -/
def pendingSize (stack : List Site) : Nat :=
  sizeAmong (stack.map Site.node)

theorem pendingSize_visit_lt (site : Site) (pending : List Site) :
    pendingSize (site.children ++ pending) < pendingSize (site :: pending) := by
  rw [pendingSize, pendingSize, List.map_append, List.map_cons,
    sizeAmong_append, sizeAmong, map_node_children, Node.size_eq]
  omega

/-- The sites that a walk visits from a stack on, in order. -/
def walkFrom : List Site → List Site
  | [] => []
  | site :: pending => site :: walkFrom (site.children ++ pending)
termination_by stack => pendingSize stack
decreasing_by exact pendingSize_visit_lt site pending

end Site

/-- The sites that a walk through a whole tree visits, in order. -/
def Node.walk (tree : Node) : List Site :=
  Site.walkFrom [Site.root tree]

end CallAudit
