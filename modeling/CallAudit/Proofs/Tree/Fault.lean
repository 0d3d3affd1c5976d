import CallAudit.Proofs.Tree.Order
import CallAudit.Tree.Fault

/-!
# Finding the first fault

The search for a fault leaves out everything below an unmarked child.  Where no
fault hides there, it finds what the walk through the whole tree meets first
(`Site.firstFaultFrom?_eq_find?`), and where every mark has a cause, a marked
site has a fault to be found (`Site.exists_fault_of_isMarked`).
-/

namespace CallAudit

namespace Site

/-! ## The search, site by site -/

theorem firstFaultFrom?_append (stack others : List Site) :
    firstFaultFrom? (stack ++ others) =
      (firstFaultFrom? stack).or (firstFaultFrom? others) := by
  fun_induction firstFaultFrom? stack with
  | case1 =>
      rfl
  | case2 site pending isFault =>
      rw [List.cons_append, firstFaultFrom?, if_pos isFault]
      rfl
  | case3 site pending notFault inductionHypothesis =>
      rw [List.cons_append, firstFaultFrom?, if_neg notFault,
        ← List.append_assoc]
      exact inductionHypothesis

theorem firstFaultFrom?_eq_findSome? (stack : List Site) :
    firstFaultFrom? stack = stack.findSome? firstFault? := by
  induction stack with
  | nil =>
      rw [firstFaultFrom?]
      rfl
  | cons site rest inductionHypothesis =>
      have apart := firstFaultFrom?_append [site] rest
      rw [List.singleton_append, inductionHypothesis] at apart
      rw [apart, List.findSome?_cons, firstFault?]
      cases firstFaultFrom? [site] with
      | none =>
          rfl
      | some fault =>
          rfl

theorem firstFault?_eq (site : Site) :
    site.firstFault? =
      if site.node.isFault then some site
      else site.markedChildren.findSome? firstFault? := by
  rw [firstFault?, firstFaultFrom?, List.append_nil,
    firstFaultFrom?_eq_findSome?]

/-! ## Marks and faults -/

/-- Below a site, every child that is a fault or has one below it is marked. -/
def MarksFaults (site : Site) : Prop :=
  ∀ parent ∈ site.subtree, ∀ child ∈ parent.children,
    (∃ fault ∈ child.subtree, fault.node.isFault = true) →
      child.node.isMarked = true

/-- At and below a site, every faulty node is a fault itself or has a marked
child. -/
def MarksHaveCause (site : Site) : Prop :=
  ∀ inner ∈ site.subtree, inner.node.label.faulty = true →
    inner.node.isFault = true ∨
      ∃ child ∈ inner.children, child.node.isMarked = true

section Children

variable {site child : Site} (isChild : child ∈ site.children)

include isChild

theorem MarksFaults.below (marked : site.MarksFaults) : child.MarksFaults := by
  intro parent member
  exact marked parent (mem_subtree_of_mem_children isChild member)

theorem MarksHaveCause.below (caused : site.MarksHaveCause) :
    child.MarksHaveCause := by
  intro inner member
  exact caused inner (mem_subtree_of_mem_children isChild member)

theorem MarksFaults.faultless_of_unmarked (marked : site.MarksFaults)
    (unmarked : child.node.isMarked = false) :
    ∀ inner ∈ child.subtree, inner.node.isFault = false := by
  intro inner member
  rw [Bool.eq_false_iff]
  intro isFault
  have isMarked : child.node.isMarked = true :=
    marked site site.self_mem_subtree child isChild ⟨inner, member, isFault⟩
  rw [unmarked] at isMarked
  exact Bool.false_ne_true isMarked

end Children

/-- Sites without faults at or below them can be left out of a search. -/
theorem find?_flatMap_filter {sites : List Site} {keep : Site → Bool}
    (faultless : ∀ site ∈ sites, keep site = false →
      ∀ inner ∈ site.subtree, inner.node.isFault = false) :
    ((sites.filter keep).flatMap subtree).find?
        (fun inner => inner.node.isFault) =
      (sites.flatMap subtree).find? fun inner => inner.node.isFault := by
  induction sites with
  | nil =>
      rfl
  | cons site rest inductionHypothesis =>
      rw [List.forall_mem_cons] at faultless
      have later := inductionHypothesis faultless.2
      rw [List.filter_cons, List.flatMap_cons, List.find?_append, ← later]
      split
      · rw [List.flatMap_cons, List.find?_append]
      · next dropped =>
          have nothing :
              (site.subtree.find? fun inner => inner.node.isFault) = none := by
            rw [List.find?_eq_none]
            intro inner member
            have clean := faultless.1 (Bool.eq_false_iff.mpr dropped) inner
              member
            rw [clean]
            exact Bool.false_ne_true
          rw [nothing, Option.none_or]

/-- The search from a stack finds the first fault that the walk from this stack
meets, where no fault hides below an unmarked child. -/
theorem firstFaultFrom?_eq_find? (stack : List Site)
    (marked : ∀ site ∈ stack, site.MarksFaults) :
    firstFaultFrom? stack =
      (walkFrom stack).find? fun site => site.node.isFault := by
  fun_induction firstFaultFrom? stack with
  | case1 =>
      rw [walkFrom]
      rfl
  | case2 site pending isFault =>
      rw [walkFrom]
      exact (List.find?_cons_of_pos
        (p := fun site : Site => site.node.isFault) isFault).symm
  | case3 site pending notFault inductionHypothesis =>
      rw [List.forall_mem_cons] at marked
      obtain ⟨siteMarked, pendingMarked⟩ := marked
      -- One step: the stack goes on to mark its faults.
      have stackMarked : ∀ next ∈ site.markedChildren ++ pending,
          next.MarksFaults := by
        intro next member
        rcases List.mem_append.mp member with isChild | isPending
        · exact siteMarked.below (List.mem_filter.mp isChild).1
        · exact pendingMarked next isPending
      -- What the search leaves out has no faults.
      have children : (site.markedChildren.flatMap subtree).find?
          (fun inner => inner.node.isFault) =
            (site.children.flatMap subtree).find? fun inner =>
              inner.node.isFault := by
        apply find?_flatMap_filter
        intro child below unmarked
        exact siteMarked.faultless_of_unmarked below unmarked
      have passed := List.find?_cons_of_neg
        (p := fun site : Site => site.node.isFault)
        (l := walkFrom (site.children ++ pending)) notFault
      rw [inductionHypothesis stackMarked, walkFrom, passed,
        walkFrom_eq_flatMap, walkFrom_eq_flatMap, List.flatMap_append,
        List.flatMap_append, List.find?_append, List.find?_append, children]

/-- A marked site has a fault at or below it, where every mark has a cause. -/
theorem exists_fault_of_isMarked (site : Site) (caused : site.MarksHaveCause)
    (isMarked : site.node.isMarked = true) :
    ∃ fault ∈ site.subtree, fault.node.isFault = true := by
  induction site using inductionOnChildren with
  | step site inductionHypothesis =>
      by_cases isFault : site.node.isFault = true
      · exact ⟨site, site.self_mem_subtree, isFault⟩
      have notMissing : ¬ site.node.label.missing = true := by
        intro missing
        apply isFault
        rw [Node.isFault, missing, Bool.or_true]
      have faulty : site.node.label.faulty = true := by
        rw [Node.isMarked, Bool.or_eq_true] at isMarked
        exact isMarked.resolve_right notMissing
      have cause := caused site site.self_mem_subtree faulty
      obtain ⟨child, below, childMarked⟩ := cause.resolve_left isFault
      obtain ⟨fault, member, found⟩ :=
        inductionHypothesis child below (caused.below below) childMarked
      exact ⟨fault, mem_subtree_of_mem_children below member, found⟩

end Site

/-! ## The first fault of a whole tree -/

/-- The fault of a tree that comes before all other faults in document order. -/
structure Node.IsFirstFault (tree : Node) (fault : Site) : Prop where
  present : fault ∈ tree.sites
  isFault : fault.node.isFault = true
  first : ∀ other ∈ tree.sites, other.node.isFault = true →
    other = fault ∨ Path.Before fault.path other.path

namespace Node

variable {tree : Node} (marked : (Site.root tree).MarksFaults)

include marked

theorem firstFault?_eq_find? :
    (Site.root tree).firstFault? =
      tree.sites.find? fun site => site.node.isFault := by
  have found := Site.firstFaultFrom?_eq_find? [Site.root tree]
    (List.forall_mem_singleton.mpr marked)
  rw [← walk_eq_sites]
  exact found

theorem firstFault?_eq_some_iff {fault : Site} :
    (Site.root tree).firstFault? = some fault ↔ tree.IsFirstFault fault := by
  have least := @find?_eq_some_iff_least Site
    (fun left right => Path.Before left.path right.path) tree.sites
    Path.before_asymm tree.sites_pairwise (fun site => site.node.isFault) fault
  rw [firstFault?_eq_find? marked, least]
  constructor
  · intro holds
    exact ⟨holds.1, holds.2.1, holds.2.2⟩
  · intro holds
    exact ⟨holds.present, holds.isFault, holds.first⟩

theorem firstFault?_eq_none_iff :
    (Site.root tree).firstFault? = none ↔
      ∀ site ∈ tree.sites, site.node.isFault = false := by
  rw [firstFault?_eq_find? marked, List.find?_eq_none]
  simp only [Bool.not_eq_true]

end Node

end CallAudit
