import CallAudit.Tree.Walk

/-!
# The first fault of a tree

A parser that recovers from a mistake leaves a tree with marks: nodes of the
kind `ERROR`, nodes that are missing from the text, and the flag `faulty` on
the nodes that cover one of these.  The search for the first fault goes down
only where a mark invites it.

Like the walk it keeps a stack of sites, the next one on top.  A site that is no
fault makes way for those of its children that are marked, the leftmost first.
-/

namespace CallAudit

namespace Node

/-- A fault is a piece of text that was not understood, or a node that is
missing from the text. -/
def isFault (node : Node) : Bool :=
  node.kind == "ERROR" || node.label.missing

def isMarked (node : Node) : Bool :=
  node.label.faulty || node.label.missing

end Node

namespace Site

def markedChildren (site : Site) : List Site :=
  site.children.filter fun child => child.node.isMarked

theorem pendingSize_filter_le (wanted : Site → Bool) (sites : List Site) :
    pendingSize (sites.filter wanted) ≤ pendingSize sites := by
  induction sites with
  | nil =>
      exact Nat.le_refl _
  | cons site rest inductionHypothesis =>
      rw [List.filter_cons]
      split
      · simp only [pendingSize, List.map_cons, sizeAmong] at *
        omega
      · simp only [pendingSize, List.map_cons, sizeAmong] at *
        omega

theorem pendingSize_search_lt (site : Site) (pending : List Site) :
    pendingSize (site.markedChildren ++ pending) <
      pendingSize (site :: pending) := by
  have bound : pendingSize site.markedChildren ≤ pendingSize site.children :=
    pendingSize_filter_le _ _
  have whole := pendingSize_visit_lt site pending
  simp only [pendingSize, List.map_append, sizeAmong_append] at *
  omega

def firstFaultFrom? : List Site → Option Site
  | [] => none
  | site :: pending =>
      if site.node.isFault then
        some site
      else
        firstFaultFrom? (site.markedChildren ++ pending)
termination_by stack => pendingSize stack
decreasing_by exact pendingSize_search_lt site pending

/-- The first fault that the search meets at or below a site. -/
def firstFault? (site : Site) : Option Site :=
  firstFaultFrom? [site]

end Site

/-- The first fault that the search meets in a whole tree. -/
def Node.firstFault? (tree : Node) : Option Node :=
  (Site.root tree).firstFault?.map Site.node

/-- The place to blame for a faulty tree: its first fault, or the root when
no fault can be reached. -/
def Node.blame (tree : Node) : Node :=
  tree.firstFault?.getD tree

end CallAudit
