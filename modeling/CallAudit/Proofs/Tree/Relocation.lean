import CallAudit.Proofs.Tree.Replace
import CallAudit.Proofs.Tree.Woven

/-!
# Moving the nodes of a tree

A change in one place of a tree can move many nodes: the right siblings of a
new node get another index, and everything in a node that is wrapped into a new
one comes to stand a level deeper.  A `Relocation` gives for each node what it
becomes, its index, and the new node that it is wrapped into, if any.

Everything else follows from that: the path and the ancestors of a moved node
(`Relocation.twin`), the sites above it, its children, and the order of all
sites.
-/

namespace CallAudit

/-- What becomes of the node at a path: itself, its index among the children of
the moved parent, and the node that comes in between. -/
structure Relocation where
  node : Path → Node → Node
  index : Path → Nat
  wrapper? : Path → Option Node

namespace Relocation

variable (relocation : Relocation)

/-- Where a path leads after the change.  A wrapped node is the first child of
its wrapper. -/
def move : Path → Path
  | [] => []
  | first :: path =>
      (relocation.wrapper? (first :: path)).toList.map (fun _ => 0) ++
        relocation.index (first :: path) :: move path

def ancestors : Path → List Node → List Node
  | first :: path, parent :: above =>
      (relocation.wrapper? (first :: path)).toList ++
        relocation.node path parent :: ancestors path above
  | _, _ => []

/-- A site after the change. -/
def twin (site : Site) : Site :=
  ⟨relocation.move site.path,
    relocation.ancestors site.path site.ancestors,
    relocation.node site.path site.node⟩

/-- The site of a wrapper. -/
def IsWrapper (site : Site) : Prop :=
  ∃ first path, relocation.wrapper? (first :: path) = some site.node ∧
    site.path = relocation.index (first :: path) :: relocation.move path

variable {relocation}

theorem move_of_unwrapped {first : Nat} {path : Path}
    (unwrapped : relocation.wrapper? (first :: path) = none) :
    relocation.move (first :: path) =
      relocation.index (first :: path) :: relocation.move path := by
  rw [move, unwrapped]
  rfl

theorem move_of_wrapped {first : Nat} {path : Path} {wrapper : Node}
    (wrapped : relocation.wrapper? (first :: path) = some wrapper) :
    relocation.move (first :: path) =
      0 :: relocation.index (first :: path) :: relocation.move path := by
  rw [move, wrapped]
  rfl

/-- Different nodes go to different places when siblings do and no node goes to
the place of a wrapper. -/
theorem move_injective
    (indexInjective : ∀ {path : Path} {left right : Nat},
      relocation.index (left :: path) = relocation.index (right :: path) →
        left = right)
    (distinct : ∀ site, relocation.IsWrapper site →
      ∀ path, relocation.move path ≠ site.path) :
    Function.Injective relocation.move := by
  have clash : ∀ {first : Nat} {path other : Path} {wrapper : Node},
      relocation.wrapper? (first :: path) = some wrapper →
        relocation.move other ≠
          relocation.index (first :: path) :: relocation.move path := by
    intro first path other wrapper wrapped
    exact distinct ⟨_, [], wrapper⟩ ⟨first, path, wrapped, rfl⟩ other
  have sameIndex : ∀ {first second : Nat} {path other : Path},
      (relocation.move path = relocation.move other → path = other) →
        relocation.index (first :: path) :: relocation.move path =
            relocation.index (second :: other) :: relocation.move other →
          first :: path = second :: other := by
    intro first second path other sameTail same
    obtain ⟨indexEq, moveEq⟩ := List.cons.inj same
    obtain rfl := sameTail moveEq
    rw [indexInjective indexEq]
  intro left
  induction left with
  | nil =>
      intro right same
      cases right with
      | nil =>
          rfl
      | cons second other =>
          have lengths := congrArg List.length same
          simp [move] at lengths
  | cons first path inductionHypothesis =>
      intro right same
      cases right with
      | nil =>
          have lengths := congrArg List.length same
          simp [move] at lengths
      | cons second other =>
          have sameTail := @inductionHypothesis other
          cases leftWrapped : relocation.wrapper? (first :: path) with
          | none =>
              rw [move_of_unwrapped leftWrapped] at same
              cases rightWrapped : relocation.wrapper? (second :: other) with
              | none =>
                  rw [move_of_unwrapped rightWrapped] at same
                  exact sameIndex sameTail same
              | some wrapper =>
                  rw [move_of_wrapped rightWrapped] at same
                  exact absurd (List.cons.inj same).2 (clash rightWrapped)
          | some wrapper =>
              rw [move_of_wrapped leftWrapped] at same
              cases rightWrapped : relocation.wrapper? (second :: other) with
              | none =>
                  rw [move_of_unwrapped rightWrapped] at same
                  exact absurd (List.cons.inj same).2.symm (clash leftWrapped)
              | some wrapper =>
                  rw [move_of_wrapped rightWrapped] at same
                  exact sameIndex sameTail (List.cons.inj same).2

/-! ## Ancestors -/

theorem climb_woven (path : Path) (above : List Node) :
    Woven relocation.IsWrapper
      ((Site.climb path above).map relocation.twin)
      (Site.climb (relocation.move path) (relocation.ancestors path above)) := by
  induction path generalizing above with
  | nil =>
      exact .nil
  | cons first path inductionHypothesis =>
      cases above with
      | nil =>
          rw [ancestors]
          · cases relocation.move (first :: path) with
            | nil =>
                exact .nil
            | cons _ _ =>
                exact .nil
          · intro _ _ _ _ _ impossible
            cases impossible
      | cons parent above =>
          have rest := inductionHypothesis above
          rw [Site.climb, List.map_cons, ancestors]
          cases wrapped : relocation.wrapper? (first :: path) with
          | none =>
              rw [move_of_unwrapped wrapped]
              exact .keep _ rest
          | some wrapper =>
              rw [move_of_wrapped wrapped]
              exact .weave ⟨first, path, wrapped, rfl⟩ (.keep _ rest)

/-- The sites above a moved site are the moved sites above it, with wrappers
between them. -/
theorem twin_above (site : Site) :
    Woven relocation.IsWrapper (site.above.map relocation.twin)
      (relocation.twin site).above :=
  climb_woven site.path site.ancestors

theorem twin_parent? {site : Site}
    (unwrapped : relocation.wrapper? site.path = none) :
    (relocation.twin site).parent? = site.parent?.map relocation.twin := by
  obtain ⟨path, above, node⟩ := site
  cases path with
  | nil =>
      rfl
  | cons first path =>
      cases above with
      | nil =>
          rw [Site.parent?, Site.above, twin, move_of_unwrapped unwrapped]
          rfl
      | cons parent above =>
          simp only at unwrapped
          rw [Site.parent?, Site.above, twin, move_of_unwrapped unwrapped]
          simp only [ancestors, unwrapped]
          rfl

/-! ## Children -/

/-- What becomes of siblings, the first of which has the index `first`. -/
def among (relocation : Relocation) (path : Path) (first : Nat) :
    List Node → List Node
  | [] => []
  | node :: rest =>
      relocation.node (first :: path) node ::
        among relocation path (first + 1) rest

theorem among_eq_self {path : Path} {first : Nat} {nodes : List Node}
    (same : ∀ index node, first ≤ index → index < first + nodes.length →
      relocation.node (index :: path) node = node) :
    relocation.among path first nodes = nodes := by
  induction nodes generalizing first with
  | nil =>
      rfl
  | cons node rest inductionHypothesis =>
      rw [among, same first node (Nat.le_refl first) (by simp),
        inductionHypothesis]
      intro index other lower upper
      apply same index other (by omega)
      rw [List.length_cons]
      omega

theorem among_eq_replaceAmong {place path : Path} {fresh : Node} {first : Nat}
    (same : ∀ index node, relocation.node (index :: path) node =
      Node.replaceAt place fresh (index :: path) node) (nodes : List Node) :
    relocation.among path first nodes =
      replaceAmong place fresh path first nodes := by
  induction nodes generalizing first with
  | nil =>
      rfl
  | cons node rest inductionHypothesis =>
      rw [among, replaceAmong, same, inductionHypothesis]

/-- Siblings that are not wrapped stay siblings. -/
theorem siblings_among {path : Path} {parent : Node} {above : List Node}
    {first offset : Nat} {nodes : List Node}
    (unwrapped : ∀ index, first ≤ index → index < first + nodes.length →
      relocation.wrapper? (index :: path) = none)
    (shifted : ∀ index, first ≤ index → index < first + nodes.length →
      relocation.index (index :: path) = index + offset) :
    Site.siblings (relocation.move path)
        (relocation.node path parent :: relocation.ancestors path above)
        (first + offset) (relocation.among path first nodes) =
      (Site.siblings path (parent :: above) first nodes).map
        relocation.twin := by
  induction nodes generalizing first with
  | nil =>
      rfl
  | cons node rest inductionHypothesis =>
      have here : first < first + (node :: rest).length := by simp
      have later : ∀ index, first + 1 ≤ index →
          index < first + 1 + rest.length →
            first ≤ index ∧ index < first + (node :: rest).length := by
        intro index lower upper
        rw [List.length_cons]
        omega
      have firstUnwrapped := unwrapped first (Nat.le_refl first) here
      have restMoved := inductionHypothesis
        (fun index lower upper =>
          unwrapped index (later index lower upper).1 (later index lower upper).2)
        (fun index lower upper =>
          shifted index (later index lower upper).1 (later index lower upper).2)
      rw [Nat.add_right_comm] at restMoved
      rw [among, Site.siblings, Site.siblings, List.map_cons, restMoved, twin,
        move_of_unwrapped firstUnwrapped,
        shifted first (Nat.le_refl first) here, ancestors, firstUnwrapped]
      rfl

theorem twin_children {site : Site}
    (unwrapped : ∀ index, relocation.wrapper? (index :: site.path) = none)
    (unshifted : ∀ index, relocation.index (index :: site.path) = index)
    (below : (relocation.node site.path site.node).children =
      relocation.among site.path 0 site.node.children) :
    (relocation.twin site).children = site.children.map relocation.twin := by
  have moved := @siblings_among relocation site.path site.node site.ancestors 0
    0 site.node.children (fun index _ _ => unwrapped index)
    (fun index _ _ => unshifted index)
  rw [Site.children, Site.children, ← moved]
  simp only [twin, below]

/-- A new child comes in where the children on its right begin, which are those
from the index `start` on. -/
theorem twin_children_around {site : Site} {left right : List Node}
    {fresh : Node} {start offset : Nat}
    (nodes : (relocation.node site.path site.node).children =
      left ++ fresh :: right)
    (meets : start + offset = left.length + 1)
    (unwrapped : ∀ index, index < left.length ∨ start ≤ index →
      relocation.wrapper? (index :: site.path) = none)
    (unchanged : ∀ index, index < left.length ∨ start ≤ index →
      ∀ node, relocation.node (index :: site.path) node = node)
    (leftIndex : ∀ index, index < left.length →
      relocation.index (index :: site.path) = index)
    (rightIndex : ∀ index, start ≤ index →
      relocation.index (index :: site.path) = index + offset) :
    (relocation.twin site).children =
      (Site.siblings site.path (site.node :: site.ancestors) 0 left).map
          relocation.twin ++
        ⟨left.length :: relocation.move site.path,
          (relocation.twin site).node :: (relocation.twin site).ancestors,
          fresh⟩ ::
        (Site.siblings site.path (site.node :: site.ancestors) start right).map
          relocation.twin := by
  have onLeft : ∀ index, index < 0 + left.length → index < left.length :=
    fun index bound => by omega
  have leftSame : relocation.among site.path 0 left = left :=
    among_eq_self fun index node _ bound =>
      unchanged index (Or.inl (onLeft index bound)) node
  have rightSame : relocation.among site.path start right = right :=
    among_eq_self fun index node bound _ =>
      unchanged index (Or.inr bound) node
  have leftMoved := @siblings_among relocation site.path site.node
    site.ancestors 0 0 left
    (fun index _ bound => unwrapped index (Or.inl (onLeft index bound)))
    (fun index _ bound => leftIndex index (onLeft index bound))
  have rightMoved := @siblings_among relocation site.path site.node
    site.ancestors start offset right
    (fun index bound _ => unwrapped index (Or.inr bound))
    (fun index bound _ => rightIndex index bound)
  rw [leftSame] at leftMoved
  rw [rightSame, meets] at rightMoved
  have shape : (relocation.twin site).node.children = left ++ fresh :: right :=
    nodes
  rw [Site.children, shape, Site.siblings_append, Site.siblings, ← leftMoved,
    ← rightMoved, Nat.zero_add]
  rfl

/-! ## All sites -/

/-- When extra sites come in among what is below each site, they come in among
all sites. -/
theorem sites_woven {old new : Node} {extra : Site → Prop}
    (atRoot : relocation.twin (Site.root old) = Site.root new)
    (step : ∀ site ∈ old.sites,
      (∀ child ∈ site.children,
        Woven extra (child.subtree.map relocation.twin)
          (relocation.twin child).subtree) →
        Woven extra
          (site.children.flatMap fun child =>
            child.subtree.map relocation.twin)
          ((relocation.twin site).children.flatMap Site.subtree)) :
    Woven extra (old.sites.map relocation.twin) new.sites := by
  have below : ∀ site : Site, site ∈ old.sites →
      Woven extra (site.subtree.map relocation.twin)
        (relocation.twin site).subtree := by
    intro site
    induction site using Site.inductionOnChildren with
    | step site inductionHypothesis =>
        intro member
        rw [Site.subtree_eq site, Site.subtree_eq (relocation.twin site),
          List.map_cons, List.map_flatMap]
        refine .keep _ (step site member ?_)
        intro child childBelow
        exact inductionHypothesis child childBelow
          (Node.child_mem_sites member childBelow)
  rw [Node.sites_eq_subtree, Node.sites_eq_subtree, ← atRoot]
  exact below (Site.root old) old.root_mem_sites

end Relocation

end CallAudit
