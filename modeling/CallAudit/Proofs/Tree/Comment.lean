import CallAudit.Proofs.Tree.Fault
import CallAudit.Proofs.Tree.Relocation

/-!
# Inserting a comment

A comment is put somewhere among the children of a node.  The right siblings of
the comment move by one, and all sites reappear in their order, with the comment
between them (`CommentInsertion.sites_woven`).  The search for the first fault
passes the comment by (`CommentInsertion.blame_label`).
-/

namespace CallAudit

/-- A comment to be put between some children of a node and the others. -/
structure CommentInsertion (tree : Node) (parent : Site)
    (before after : List Node) (comment : Node) : Prop where
  present : parent ∈ tree.sites
  split : parent.node.children = before ++ after
  kind : comment.kind = "comment"
  childless : comment.children = []
  roleless : comment.field = none
  notMissing : comment.label.missing = false
  notFaulty : comment.label.faulty = false

/-! ## The first fault, child by child -/

/-- The label of the first fault that the search finds at or below a site. -/
def Site.faultLabel? (site : Site) : Option Label :=
  site.firstFault?.map fun fault => fault.node.label

/-- The label of the first fault that the search finds in a child. -/
def Site.enteredLabel? (child : Site) : Option Label :=
  if child.node.isMarked then child.faultLabel? else none

theorem Site.faultLabel?_eq (site : Site) :
    site.faultLabel? =
      if site.node.isFault then some site.node.label
      else site.children.findSome? enteredLabel? := by
  have among : (site.markedChildren.findSome? firstFault?).map
      (fun fault => fault.node.label) =
        site.children.findSome? enteredLabel? := by
    rw [List.map_findSome?, markedChildren, ← List.head?_filterMap,
      List.filterMap_filter, List.head?_filterMap]
    rfl
  rw [faultLabel?, firstFault?_eq, apply_ite (Option.map _), among]
  rfl

/-! ## What the insertion does -/

namespace CommentInsertion

variable {tree : Node} {parent : Site} {before after : List Node}
  {comment : Node}

def commented (_ : CommentInsertion tree parent before after comment) : Node :=
  .node parent.node.label (before ++ comment :: after)

def result (insertion : CommentInsertion tree parent before after comment) :
    Node :=
  tree.replace parent.path insertion.commented

def relocation (insertion : CommentInsertion tree parent before after comment) :
    Relocation where
  node := Node.replaceAt parent.path insertion.commented
  index
    | [] => 0
    | index :: path =>
        if path = parent.path ∧ before.length ≤ index then index + 1 else index
  wrapper? := fun _ => none

def IsInserted (insertion : CommentInsertion tree parent before after comment)
    (site : Site) : Prop :=
  site.node = comment ∧
    site.path = before.length :: insertion.relocation.move parent.path

variable (insertion : CommentInsertion tree parent before after comment)
  {site : Site}

include insertion

theorem node_of_path_eq (atParent : site.path = parent.path) :
    (insertion.relocation.twin site).node = insertion.commented :=
  Site.replace_node_of_path_eq atParent

theorem twin_label (member : site ∈ tree.sites) :
    (insertion.relocation.twin site).node.label = site.node.label := by
  by_cases atParent : site.path = parent.path
  · have same := Node.eq_of_path_eq member insertion.present atParent
    rw [insertion.node_of_path_eq atParent, same]
    rfl
  · exact Site.replace_label atParent

theorem twin_root :
    insertion.relocation.twin (Site.root tree) = Site.root insertion.result :=
  rfl

/-! ## Paths -/

theorem index_of_lt {index : Nat} (left : index < before.length) :
    insertion.relocation.index (index :: parent.path) = index := by
  have notRight : ¬ before.length ≤ index := by omega
  simp only [relocation, true_and, if_neg notRight]

theorem index_of_le {index : Nat} (right : before.length ≤ index) :
    insertion.relocation.index (index :: parent.path) = index + 1 := by
  simp only [relocation, true_and, if_pos right]

theorem index_elsewhere {path : Path} (elsewhere : path ≠ parent.path)
    (index : Nat) : insertion.relocation.index (index :: path) = index := by
  have notRight : ¬ (path = parent.path ∧ before.length ≤ index) :=
    fun right => elsewhere right.1
  simp only [relocation, if_neg notRight]

theorem index_injective {path : Path} {left right : Nat}
    (same : insertion.relocation.index (left :: path) =
      insertion.relocation.index (right :: path)) : left = right := by
  by_cases atParent : path = parent.path
  · simp only [relocation, atParent, true_and] at same
    split at same
    · split at same
      · omega
      · omega
    · split at same
      · omega
      · omega
  · rw [insertion.index_elsewhere atParent,
      insertion.index_elsewhere atParent] at same
    exact same

theorem not_isWrapper : ¬ insertion.relocation.IsWrapper site := by
  rintro ⟨_, _, wrapped, _⟩
  cases wrapped

theorem move_injective : Function.Injective insertion.relocation.move := by
  apply Relocation.move_injective
  · exact insertion.index_injective
  · intro _ isWrapper
    exact absurd isWrapper insertion.not_isWrapper

/-- No site moves to the place of the comment. -/
theorem move_ne (isInserted : insertion.IsInserted site) (path : Path) :
    insertion.relocation.move path ≠ site.path := by
  rw [isInserted.2]
  cases path with
  | nil =>
      rw [Relocation.move]
      exact (List.cons_ne_nil _ _).symm
  | cons index path =>
      rw [Relocation.move_of_unwrapped rfl]
      intro same
      obtain ⟨sameIndex, sameMove⟩ := List.cons.inj same
      obtain rfl := insertion.move_injective sameMove
      by_cases left : index < before.length
      · rw [insertion.index_of_lt left] at sameIndex
        omega
      · rw [insertion.index_of_le (Nat.le_of_not_lt left)] at sameIndex
        omega

/-! ## Sites -/

theorem twin_children_elsewhere (elsewhere : site.path ≠ parent.path) :
    (insertion.relocation.twin site).children =
      site.children.map insertion.relocation.twin := by
  apply Relocation.twin_children
  · exact fun _ => rfl
  · exact insertion.index_elsewhere elsewhere
  · rw [Relocation.among_eq_replaceAmong fun _ _ => rfl]
    exact Node.replaceAt_children _ elsewhere _

theorem node_below (index : Nat) (node : Node) :
    insertion.relocation.node (index :: parent.path) node = node :=
  Node.replaceAt_eq_self _ (Path.not_cons_suffix_self index parent.path) node

/-- The children around the comment reappear on both sides of it. -/
theorem twin_children_parent :
    (insertion.relocation.twin parent).children =
      (Site.siblings parent.path (parent.node :: parent.ancestors) 0
          before).map insertion.relocation.twin ++
        ⟨before.length :: insertion.relocation.move parent.path,
          (insertion.relocation.twin parent).node ::
            (insertion.relocation.twin parent).ancestors, comment⟩ ::
          (Site.siblings parent.path (parent.node :: parent.ancestors)
            before.length after).map insertion.relocation.twin := by
  have nodes : (insertion.relocation.twin parent).node.children =
      before ++ comment :: after := by
    rw [insertion.node_of_path_eq rfl]
    rfl
  apply Relocation.twin_children_around nodes rfl
  · exact fun _ _ => rfl
  · exact fun index _ => insertion.node_below index
  · exact fun _ => insertion.index_of_lt
  · exact fun _ => insertion.index_of_le

/-- The children of a site reappear, perhaps with the comment among them. -/
theorem twin_children (member : site ∈ tree.sites) :
    Woven insertion.IsInserted (site.children.map insertion.relocation.twin)
      (insertion.relocation.twin site).children := by
  by_cases atParent : site.path = parent.path
  · obtain rfl := Node.eq_of_path_eq member insertion.present atParent
    rw [insertion.twin_children_parent, Site.children, insertion.split,
      Site.siblings_append, List.map_append, Nat.zero_add]
    exact (Woven.refl _).append (.weave ⟨rfl, rfl⟩ (Woven.refl _))
  · rw [insertion.twin_children_elsewhere atParent]
    exact Woven.refl _

/-- All sites reappear in their order, with the comment between them. -/
theorem sites_woven :
    Woven insertion.IsInserted (tree.sites.map insertion.relocation.twin)
      insertion.result.sites := by
  refine Relocation.sites_woven insertion.twin_root ?_
  intro site member inductionHypothesis
  apply (insertion.twin_children member).flatMap inductionHypothesis
  intro inserted isInserted
  have noChild : inserted.children = [] := by
    rw [Site.children, isInserted.1, insertion.childless]
    rfl
  rw [Site.subtree_eq, noChild]
  exact .weave isInserted .nil

/-! ## Faults -/

theorem faultLabel?_twin (site : Site) (member : site ∈ tree.sites) :
    (insertion.relocation.twin site).faultLabel? = site.faultLabel? := by
  induction site using Site.inductionOnChildren with
  | step site inductionHypothesis =>
      have sameLabel := insertion.twin_label member
      have sameFault : (insertion.relocation.twin site).node.isFault =
          site.node.isFault :=
        congrArg (fun label : Label => label.kind == "ERROR" || label.missing)
          sameLabel
      have silent : ∀ inserted, insertion.IsInserted inserted →
          inserted.enteredLabel? = none := by
        intro inserted isInserted
        rw [Site.enteredLabel?, Node.isMarked, isInserted.1,
          insertion.notMissing, insertion.notFaulty]
        rfl
      have each : ∀ child ∈ site.children,
          (insertion.relocation.twin child).enteredLabel? =
            child.enteredLabel? := by
        intro child below
        have childMember := Node.child_mem_sites member below
        rw [Site.enteredLabel?, Site.enteredLabel?, Node.isMarked,
          Node.isMarked, insertion.twin_label childMember,
          inductionHypothesis child below childMember]
      rw [Site.faultLabel?_eq, Site.faultLabel?_eq site, sameFault, sameLabel,
        (insertion.twin_children member).findSome?_eq silent,
        List.findSome?_map, ← List.head?_filterMap, ← List.head?_filterMap]
      congr 2
      exact List.filterMap_congr each

/-- The same place is to blame with and without the comment. -/
theorem blame_label : insertion.result.blame.label = tree.blame.label := by
  have rootMember := tree.root_mem_sites
  have faults : (Site.root insertion.result).faultLabel? =
      (Site.root tree).faultLabel? :=
    insertion.faultLabel?_twin (Site.root tree) rootMember
  have roots : insertion.result.label = tree.label :=
    insertion.twin_label rootMember
  have blamed : ∀ root : Node, root.blame.label =
      (Site.root root).faultLabel?.getD root.label := by
    intro root
    rw [Node.blame, Node.firstFault?, Site.faultLabel?]
    cases (Site.root root).firstFault? with
    | none =>
        rfl
    | some fault =>
        rfl
  rw [blamed, blamed, faults, roots]

end CommentInsertion

end CallAudit
