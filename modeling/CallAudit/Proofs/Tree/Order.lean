import CallAudit.Tree.Walk

/-!
# Document order

Document order compares paths from the root down: at the first step where two
paths differ the smaller index comes first, and an ancestor comes before
everything below it.

* `Path.Before` is this order on paths.
* `OrderedBelow` says that a list of sites lies below a path and is strictly
  increasing in document order.
* The sites of a tree are listed in document order, and the walk with a stack
  visits exactly them (`Node.walk_eq_sites`).
-/

namespace CallAudit

/-! ## The order of paths -/

/-- One path comes before another in document order. -/
def Path.Before (left right : Path) : Prop :=
  left.reverse < right.reverse

namespace Path

theorem before_irrefl (path : Path) : ¬ Before path path := by
  exact List.lt_irrefl path.reverse

theorem before_trans {first second third : Path}
    (earlier : Before first second) (later : Before second third) :
    Before first third := by
  exact List.lt_trans earlier later

theorem before_asymm {left right : Path}
    (order : Before left right) : ¬ Before right left := by
  intro opposite
  exact before_irrefl left (before_trans order opposite)

/-- A node comes before everything below it. -/
theorem before_below (path steps : Path) (proper : steps ≠ []) :
    Before path (steps ++ path) := by
  rw [Before, List.reverse_append]
  cases shape : steps.reverse with
  | nil =>
      exact absurd (List.reverse_eq_nil_iff.mp shape) proper
  | cons step rest =>
      have order : path.reverse ++ [] < path.reverse ++ step :: rest :=
        List.append_left_lt (List.nil_lt_cons step rest)
      simpa using order

/-- Everything below a child comes before everything below a later child. -/
theorem before_of_index_lt
    (path left right : Path) {earlier later : Nat} (order : earlier < later) :
    Before (left ++ earlier :: path) (right ++ later :: path) := by
  rw [Before, List.reverse_append, List.reverse_append, List.reverse_cons,
    List.reverse_cons, List.append_assoc, List.append_assoc]
  apply List.append_left_lt
  exact List.cons_lt_cons_iff.mpr (Or.inl order)

end Path

/-- In a list that is in order, searching finds the least of the wanted
items. -/
theorem find?_eq_some_iff_least
    {α : Type} {before : α → α → Prop} {items : List α}
    (asymm : ∀ {left right}, before left right → ¬ before right left)
    (ordered : items.Pairwise before) (wanted : α → Bool) (item : α) :
    items.find? wanted = some item ↔
      item ∈ items ∧ wanted item = true ∧
        ∀ other ∈ items, wanted other = true →
          other = item ∨ before item other := by
  have least : ∀ {found : α}, items.find? wanted = some found →
      ∀ other ∈ items, wanted other = true →
        other = found ∨ before found other := by
    intro found search other member isWanted
    obtain ⟨_, earlier, later, shape, unwanted⟩ :=
      List.find?_eq_some_iff_append.mp search
    rw [shape] at member ordered
    rcases List.mem_append.mp member with inEarlier | inRest
    · have notWanted := unwanted other inEarlier
      simp [isWanted] at notWanted
    · rcases List.mem_cons.mp inRest with equality | inLater
      · exact Or.inl equality
      · have tail := (List.pairwise_append.mp ordered).2.1
        exact Or.inr ((List.pairwise_cons.mp tail).1 other inLater)
  constructor
  · intro search
    exact ⟨List.mem_of_find?_eq_some search, List.find?_some search,
      least search⟩
  · rintro ⟨member, isWanted, minimal⟩
    cases search : items.find? wanted with
    | none =>
        have unwanted := List.find?_eq_none.mp search item member
        exact absurd isWanted unwanted
    | some found =>
        rcases least search item member isWanted with rfl | foundBefore
        · rfl
        · rcases minimal found (List.mem_of_find?_eq_some search)
              (List.find?_some search) with rfl | itemBefore
          · rfl
          · exact absurd itemBefore (asymm foundBefore)

/-! ## Lists of sites below a path -/

/-- The sites of a list lie at or below a path and are strictly increasing in
document order. -/
structure OrderedBelow (path : Path) (sites : List Site) : Prop where
  below : ∀ site ∈ sites, ∃ steps, site.path = steps ++ path
  ordered : sites.Pairwise fun left right => Path.Before left.path right.path

namespace OrderedBelow

theorem nil (path : Path) : OrderedBelow path [] :=
  ⟨by simp, List.Pairwise.nil⟩

theorem singleton {path : Path} {site : Site} {steps : Path}
    (place : site.path = steps ++ path) : OrderedBelow path [site] :=
  ⟨by simpa using ⟨steps, place⟩, by simp⟩

/-- What lies below a node lies below everything above that node. -/
theorem raise {path : Path} (steps : Path) {sites : List Site}
    (listed : OrderedBelow (steps ++ path) sites) :
    OrderedBelow path sites := by
  refine ⟨?_, listed.ordered⟩
  intro site member
  obtain ⟨further, place⟩ := listed.below site member
  exact ⟨further ++ steps, by rw [place, List.append_assoc]⟩

theorem sublist {path : Path} {some all : List Site}
    (part : some.Sublist all) (listed : OrderedBelow path all) :
    OrderedBelow path some :=
  ⟨fun site member => listed.below site (part.subset member),
    listed.ordered.sublist part⟩

end OrderedBelow

namespace Site

/-! ## Children -/

theorem mem_siblings
    {path : Path} {ancestors : List Node} {first : Nat} {nodes : List Node}
    {site : Site} (member : site ∈ siblings path ancestors first nodes) :
    ∃ index node, first ≤ index ∧ node ∈ nodes ∧
      site = ⟨index :: path, ancestors, node⟩ := by
  induction nodes generalizing first with
  | nil =>
      simp [siblings] at member
  | cons child rest inductionHypothesis =>
      rw [siblings, List.mem_cons] at member
      rcases member with equality | later
      · exact ⟨first, child, Nat.le_refl first, List.mem_cons_self, equality⟩
      · obtain ⟨index, node, bound, nodeMember, equality⟩ :=
          inductionHypothesis later
        exact ⟨index, node, by omega,
          List.mem_cons_of_mem child nodeMember, equality⟩

/-- A child hangs from its parent, one step further down. -/
theorem eq_of_mem_children {site child : Site}
    (member : child ∈ site.children) :
    ∃ index, child.path = index :: site.path ∧
      child.ancestors = site.node :: site.ancestors ∧
      child.node ∈ site.node.children := by
  obtain ⟨index, node, _, nodeMember, rfl⟩ := mem_siblings member
  exact ⟨index, rfl, rfl, nodeMember⟩

/-- A child stands between its siblings. -/
theorem split_of_mem_siblings
    {path : Path} {ancestors : List Node} {first : Nat} {nodes : List Node}
    {site : Site} (member : site ∈ siblings path ancestors first nodes) :
    ∃ left right, nodes = left ++ site.node :: right ∧
      site.path = (first + left.length) :: path := by
  induction nodes generalizing first with
  | nil =>
      simp [siblings] at member
  | cons child rest inductionHypothesis =>
      rw [siblings, List.mem_cons] at member
      rcases member with rfl | later
      · exact ⟨[], rest, rfl, rfl⟩
      · obtain ⟨left, right, shape, place⟩ := inductionHypothesis later
        refine ⟨child :: left, right, by rw [shape]; rfl, ?_⟩
        rw [place, List.length_cons, Nat.add_assoc, Nat.add_comm 1]

theorem siblings_append (path : Path) (ancestors : List Node)
    (first : Nat) (left right : List Node) :
    siblings path ancestors first (left ++ right) =
      siblings path ancestors first left ++
        siblings path ancestors (first + left.length) right := by
  induction left generalizing first with
  | nil =>
      rfl
  | cons node rest inductionHypothesis =>
      rw [List.cons_append, siblings, siblings, inductionHypothesis (first + 1),
        List.cons_append, List.length_cons, Nat.add_right_comm first 1,
        Nat.add_assoc first]

theorem siblings_pairwise
    (path : Path) (ancestors : List Node) (first : Nat) (nodes : List Node) :
    (siblings path ancestors first nodes).Pairwise fun left right =>
      ∃ earlier later, earlier < later ∧
        left.path = earlier :: path ∧ right.path = later :: path := by
  induction nodes generalizing first with
  | nil =>
      exact List.Pairwise.nil
  | cons child rest inductionHypothesis =>
      rw [siblings, List.pairwise_cons]
      refine ⟨?_, inductionHypothesis (first + 1)⟩
      intro other otherMember
      obtain ⟨index, node, bound, _, rfl⟩ := mem_siblings otherMember
      exact ⟨first, index, by omega, rfl, rfl⟩

/-- The nearest proper ancestor of a child is its parent. -/
theorem above_of_mem_children {site child : Site}
    (member : child ∈ site.children) :
    child.above = site :: site.above := by
  obtain ⟨index, pathShape, ancestorShape, _⟩ := eq_of_mem_children member
  rw [above, pathShape, ancestorShape, climb, above]

theorem size_lt_of_mem_children {site child : Site}
    (member : child ∈ site.children) :
    child.node.size < site.node.size := by
  have listed : child.node ∈ site.node.children := by
    obtain ⟨_, _, _, listed⟩ := eq_of_mem_children member
    exact listed
  have bound : ∀ nodes : List Node, child.node ∈ nodes →
      child.node.size ≤ sizeAmong nodes := by
    intro nodes nodeMember
    induction nodes with
    | nil =>
        simp at nodeMember
    | cons head rest inductionHypothesis =>
        rw [sizeAmong]
        rcases List.mem_cons.mp nodeMember with equality | later
        · rw [equality]
          omega
        · have restBound := inductionHypothesis later
          omega
  have listBound := bound site.node.children listed
  rw [site.node.size_eq]
  omega

/-- Induction from the children of a site to the site. -/
theorem inductionOnChildren {motive : Site → Prop}
    (step : ∀ site, (∀ child ∈ site.children, motive child) → motive site)
    (site : Site) : motive site := by
  apply step site
  intro child member
  exact inductionOnChildren step child
termination_by site.node.size
decreasing_by exact size_lt_of_mem_children member

/-- Sites collected from some children of a site are in document order when
those of each child are. -/
theorem orderedBelow_flatMap {site : Site} {chosen : List Site}
    {collect : Site → List Site}
    (part : chosen.Sublist site.children)
    (each : ∀ child ∈ chosen, OrderedBelow child.path (collect child)) :
    OrderedBelow site.path (chosen.flatMap collect) := by
  have inside : ∀ child ∈ chosen, ∀ found ∈ collect child,
      ∃ steps, found.path = steps ++ child.path :=
    fun child member => (each child member).below
  refine ⟨?_, List.pairwise_flatMap.mpr ⟨?_, ?_⟩⟩
  · intro found foundMember
    obtain ⟨child, member, collected⟩ := List.mem_flatMap.mp foundMember
    obtain ⟨steps, place⟩ := inside child member found collected
    obtain ⟨index, pathShape, _⟩ := eq_of_mem_children (part.subset member)
    exact ⟨steps ++ [index], by rw [place, pathShape]; simp⟩
  · intro child member
    exact (each child member).ordered
  · have siblingOrder :=
      (siblings_pairwise site.path (site.node :: site.ancestors) 0
        site.node.children).sublist part
    refine siblingOrder.imp_of_mem ?_
    intro left right leftMember rightMember order leftFound leftCollected
      rightFound rightCollected
    obtain ⟨earlier, later, lt, leftShape, rightShape⟩ := order
    obtain ⟨leftSteps, leftPlace⟩ :=
      inside left leftMember leftFound leftCollected
    obtain ⟨rightSteps, rightPlace⟩ :=
      inside right rightMember rightFound rightCollected
    rw [leftPlace, rightPlace, leftShape, rightShape]
    exact Path.before_of_index_lt site.path leftSteps rightSteps lt

/-! ## Everything below a site -/

/-- A site and all sites below it, in document order. -/
def subtree (site : Site) : List Site :=
  site.node.sitesAt site.path site.ancestors

theorem sitesBelow_eq_flatMap
    (path : Path) (ancestors : List Node) (first : Nat) (nodes : List Node) :
    sitesBelow path ancestors first nodes =
      (siblings path ancestors first nodes).flatMap subtree := by
  induction nodes generalizing first with
  | nil =>
      rfl
  | cons child rest inductionHypothesis =>
      rw [sitesBelow, siblings, List.flatMap_cons, inductionHypothesis,
        subtree]

/-- A site comes first, then what is below its children in turn. -/
theorem subtree_eq (site : Site) :
    site.subtree = site :: site.children.flatMap subtree := by
  obtain ⟨path, ancestors, node⟩ := site
  cases node with
  | node label nodes =>
      rw [subtree, Node.sitesAt, sitesBelow_eq_flatMap]
      rfl

theorem self_mem_subtree (site : Site) : site ∈ site.subtree := by
  rw [subtree_eq]
  exact List.mem_cons_self

theorem mem_subtree_of_mem_children {site child inner : Site}
    (below : child ∈ site.children) (member : inner ∈ child.subtree) :
    inner ∈ site.subtree := by
  rw [subtree_eq, List.mem_cons]
  exact Or.inr (List.mem_flatMap.mpr ⟨child, below, member⟩)

theorem orderedBelow_subtree (site : Site) :
    OrderedBelow site.path site.subtree := by
  induction site using inductionOnChildren with
  | step site inductionHypothesis =>
      have listed : OrderedBelow site.path (site.children.flatMap subtree) :=
        orderedBelow_flatMap (List.Sublist.refl _) inductionHypothesis
      rw [subtree_eq]
      refine ⟨?_, List.pairwise_cons.mpr ⟨?_, listed.ordered⟩⟩
      · intro found member
        rcases List.mem_cons.mp member with rfl | later
        · exact ⟨[], rfl⟩
        · exact listed.below found later
      · intro found member
        obtain ⟨child, childMember, foundBelow⟩ := List.mem_flatMap.mp member
        obtain ⟨steps, place⟩ :=
          (inductionHypothesis child childMember).below found foundBelow
        obtain ⟨index, pathShape, _⟩ := eq_of_mem_children childMember
        rw [place, pathShape]
        have further := Path.before_below site.path (steps ++ [index]) (by simp)
        rwa [List.append_assoc] at further

/-- The walk from a stack lists what is below its sites, one after the
other. -/
theorem walkFrom_eq_flatMap (stack : List Site) :
    walkFrom stack = stack.flatMap subtree := by
  fun_induction walkFrom stack with
  | case1 =>
      rfl
  | case2 site pending inductionHypothesis =>
      rw [inductionHypothesis, List.flatMap_cons, List.flatMap_append,
        subtree_eq site, List.cons_append]

end Site

/-! ## The sites of a tree -/

namespace Node

theorem sites_eq_subtree (tree : Node) :
    tree.sites = (Site.root tree).subtree :=
  rfl

theorem root_mem_sites (tree : Node) : Site.root tree ∈ tree.sites := by
  rw [sites_eq_subtree]
  exact Site.self_mem_subtree (Site.root tree)

/-- The walk with a stack visits the sites of a tree in document order. -/
theorem walk_eq_sites (tree : Node) : tree.walk = tree.sites := by
  rw [walk, Site.walkFrom_eq_flatMap, sites_eq_subtree]
  simp

theorem sites_pairwise (tree : Node) :
    tree.sites.Pairwise fun left right =>
      Path.Before left.path right.path :=
  (Site.orderedBelow_subtree (Site.root tree)).ordered

end Node

theorem Site.child_mem_subtree {top site child : Site}
    (member : site ∈ top.subtree) (below : child ∈ site.children) :
    child ∈ top.subtree := by
  induction top using Site.inductionOnChildren with
  | step top inductionHypothesis =>
      rw [Site.subtree_eq, List.mem_cons] at member
      rcases member with rfl | deeper
      · exact Site.mem_subtree_of_mem_children below child.self_mem_subtree
      · obtain ⟨between, betweenMember, siteMember⟩ :=
          List.mem_flatMap.mp deeper
        exact Site.mem_subtree_of_mem_children betweenMember
          (inductionHypothesis between betweenMember siteMember)

/-- Induction from a site down to the sites below it. -/
theorem Site.subtree_induction {motive : Site → Prop}
    {top : Site} (atTop : motive top)
    (step : ∀ site, motive site → ∀ child ∈ site.children, motive child) :
    ∀ site ∈ top.subtree, motive site := by
  induction top using Site.inductionOnChildren with
  | step top inductionHypothesis =>
      intro site member
      rw [Site.subtree_eq, List.mem_cons] at member
      rcases member with rfl | deeper
      · exact atTop
      · obtain ⟨child, childMember, siteMember⟩ :=
          List.mem_flatMap.mp deeper
        exact inductionHypothesis child childMember
          (step top atTop child childMember) site siteMember

namespace Node

theorem child_mem_sites {tree : Node} {site child : Site}
    (member : site ∈ tree.sites) (below : child ∈ site.children) :
    child ∈ tree.sites := by
  rw [sites_eq_subtree] at member ⊢
  exact Site.child_mem_subtree member below

theorem child?_mem_sites {tree : Node} {site child : Site} {role : String}
    (member : site ∈ tree.sites) (found : site.child? role = some child) :
    child ∈ tree.sites :=
  child_mem_sites member (List.mem_of_find?_eq_some found)

/-- Induction from the root of a tree down to its sites. -/
theorem sites_induction {tree : Node} {motive : Site → Prop}
    (atRoot : motive (Site.root tree))
    (step : ∀ site, motive site → ∀ child ∈ site.children, motive child) :
    ∀ site ∈ tree.sites, motive site :=
  Site.subtree_induction atRoot step

/-- Proper ancestors come before a site. -/
theorem before_of_mem_above {tree : Node} {site : Site}
    (member : site ∈ tree.sites) :
    ∀ ancestor ∈ site.above, Path.Before ancestor.path site.path := by
  refine sites_induction (motive := fun site =>
    ∀ ancestor ∈ site.above, Path.Before ancestor.path site.path)
    ?_ ?_ site member
  · intro ancestor impossible
    simp [Site.above, Site.root, Site.climb] at impossible
  · intro parent holds child below ancestor ancestorMember
    obtain ⟨index, pathShape, _⟩ := Site.eq_of_mem_children below
    have parentBefore : Path.Before parent.path child.path := by
      rw [pathShape]
      exact Path.before_below parent.path [index] (by simp)
    rw [Site.above_of_mem_children below, List.mem_cons] at ancestorMember
    rcases ancestorMember with rfl | higher
    · exact parentBefore
    · exact Path.before_trans (holds ancestor higher) parentBefore

end Node

end CallAudit
