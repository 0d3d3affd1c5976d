import CallAudit.Proofs.Tree.Order
import Mathlib.Data.List.Nodup

/-!
# Exchanging a part of a tree

`Node.replace` puts another tree at a path.  Everything that is not at or below
that path keeps its place and its label, so each site of the old tree has a
counterpart `Site.replace` in the new one, with the counterparts of its
children and of its ancestors around it.
-/

namespace CallAudit

mutual

/-- A tree that stands at a path itself, after the part at a given place was
exchanged. -/
def Node.replaceAt (place : Path) (fresh : Node) (path : Path) : Node → Node
  | .node label children =>
      if path = place then fresh
      else .node label (replaceAmong place fresh path 0 children)

/-- Siblings, the first of which has the index `first`, after the part at a
given place was exchanged. -/
def replaceAmong (place : Path) (fresh : Node) (path : Path) (first : Nat) :
    List Node → List Node
  | [] => []
  | child :: rest =>
      Node.replaceAt place fresh (first :: path) child ::
        replaceAmong place fresh path (first + 1) rest

end

/-- A whole tree with another tree in the place of the one at a path. -/
def Node.replace (tree : Node) (place : Path) (fresh : Node) : Node :=
  replaceAt place fresh [] tree

/-- The ancestors of a path after the part at a given place was exchanged. -/
def replaceAncestors (place : Path) (fresh : Node) :
    Path → List Node → List Node
  | _ :: path, parent :: ancestors =>
      Node.replaceAt place fresh path parent ::
        replaceAncestors place fresh path ancestors
  | _, _ => []

/-- The counterpart of a site after the part at a given place was
exchanged. -/
def Site.replace (place : Path) (fresh : Node) (site : Site) : Site :=
  ⟨site.path, replaceAncestors place fresh site.path site.ancestors,
    Node.replaceAt place fresh site.path site.node⟩

theorem Path.not_cons_suffix {place path : Path}
    (outside : ¬ path <:+ place) (index : Nat) : ¬ index :: path <:+ place := by
  intro inside
  exact outside ((List.suffix_cons index path).trans inside)

theorem Path.not_cons_suffix_self (index : Nat) (path : Path) :
    ¬ index :: path <:+ path := by
  intro inside
  have bound := inside.length_le
  rw [List.length_cons] at bound
  omega

mutual

/-- A tree that the exchanged part is not in stays as it is. -/
theorem Node.replaceAt_eq_self {place path : Path} (fresh : Node)
    (outside : ¬ path <:+ place) :
    ∀ tree, Node.replaceAt place fresh path tree = tree
  | .node label children => by
      have elsewhere : path ≠ place := fun same => outside (same ▸ List.suffix_rfl)
      have below : ∀ index, 0 ≤ index → ¬ index :: path <:+ place :=
        fun index _ => Path.not_cons_suffix outside index
      rw [Node.replaceAt, if_neg elsewhere, replaceAmong_eq_self fresh below]

theorem replaceAmong_eq_self {place path : Path} (fresh : Node) {first : Nat}
    (outside : ∀ index, first ≤ index → ¬ index :: path <:+ place) :
    ∀ nodes, replaceAmong place fresh path first nodes = nodes
  | [] => rfl
  | node :: rest => by
      have here := outside first (Nat.le_refl first)
      have later : ∀ index, first + 1 ≤ index → ¬ index :: path <:+ place :=
        fun index bound => outside index (Nat.le_of_succ_le bound)
      rw [replaceAmong, Node.replaceAt_eq_self fresh here node,
        replaceAmong_eq_self fresh later rest]

end

theorem Path.not_suffix_of_index_ne {path : Path} {left right : Nat}
    (different : left ≠ right) : ¬ left :: path <:+ right :: path := by
  intro inside
  have same := inside.eq_of_length (by simp)
  exact different (List.cons.inj same).1

/-- Among siblings, only the node at the place is exchanged. -/
theorem replaceAmong_at {path : Path} (fresh node : Node) (left right : List Node)
    (first : Nat) :
    replaceAmong ((first + left.length) :: path) fresh path first
        (left ++ node :: right) =
      left ++ fresh :: right := by
  induction left generalizing first with
  | nil =>
      have later : ∀ index, first + 1 ≤ index →
          ¬ index :: path <:+ first :: path :=
        fun index bound => Path.not_suffix_of_index_ne (by omega)
      cases node with
      | node label children =>
          rw [List.nil_append, List.nil_append, List.length_nil, Nat.add_zero,
            replaceAmong, replaceAmong_eq_self fresh later right, Node.replaceAt,
            if_pos rfl]
  | cons sibling rest inductionHypothesis =>
      have here : ¬ first :: path <:+
          (first + (sibling :: rest).length) :: path := by
        apply Path.not_suffix_of_index_ne
        rw [List.length_cons]
        omega
      have shape : first + (sibling :: rest).length =
          first + 1 + rest.length := by
        rw [List.length_cons]
        omega
      rw [List.cons_append, List.cons_append, replaceAmong,
        Node.replaceAt_eq_self fresh here, shape, inductionHypothesis]

theorem Node.replaceAt_children {place path : Path} (fresh : Node)
    (elsewhere : path ≠ place) (tree : Node) :
    (replaceAt place fresh path tree).children =
      replaceAmong place fresh path 0 tree.children := by
  cases tree with
  | node label nodes =>
      rw [Node.replaceAt, if_neg elsewhere, Node.children, Node.children]

namespace Site

variable {place : Path} {fresh : Node}

theorem replace_root (tree : Node) :
    (root tree).replace place fresh = root (tree.replace place fresh) :=
  rfl

/-- The exchanged part stands at its place. -/
theorem replace_node_of_path_eq {site : Site} (atPlace : site.path = place) :
    (site.replace place fresh).node = fresh := by
  obtain ⟨path, ancestors, node⟩ := site
  cases node with
  | node label nodes =>
      simp only [replace, Node.replaceAt, if_pos atPlace]

/-- Every other node keeps its label. -/
theorem replace_label {site : Site} (elsewhere : site.path ≠ place) :
    (site.replace place fresh).node.label = site.node.label := by
  obtain ⟨path, ancestors, node⟩ := site
  cases node with
  | node label nodes =>
      simp only [replace, Node.replaceAt, if_neg elsewhere, Node.label]

theorem siblings_replaceAmong
    (path : Path) (parent : Node) (ancestors : List Node) (first : Nat)
    (nodes : List Node) :
    siblings path
        (Node.replaceAt place fresh path parent ::
          replaceAncestors place fresh path ancestors)
        first (replaceAmong place fresh path first nodes) =
      (siblings path (parent :: ancestors) first nodes).map
        (replace place fresh) := by
  induction nodes generalizing first with
  | nil =>
      rfl
  | cons node rest inductionHypothesis =>
      rw [replaceAmong, siblings, siblings, List.map_cons,
        inductionHypothesis (first + 1)]
      rfl

/-- The children of a counterpart are the counterparts of the children. -/
theorem replace_children {site : Site} (elsewhere : site.path ≠ place) :
    (site.replace place fresh).children =
      site.children.map (replace place fresh) := by
  obtain ⟨path, ancestors, node⟩ := site
  cases node with
  | node label nodes =>
      have shape : Node.replaceAt place fresh path (.node label nodes) =
          .node label (replaceAmong place fresh path 0 nodes) := by
        rw [Node.replaceAt, if_neg elsewhere]
      have listed := @siblings_replaceAmong place fresh path
        (.node label nodes) ancestors 0 nodes
      rw [shape] at listed
      simp only [children, replace, shape]
      exact listed

/-- The ancestors of a counterpart are the counterparts of the ancestors. -/
theorem replace_above (site : Site) :
    (site.replace place fresh).above = site.above.map (replace place fresh) := by
  have climbs : ∀ (path : Path) (ancestors : List Node),
      climb path (replaceAncestors place fresh path ancestors) =
        (climb path ancestors).map (replace place fresh) := by
    intro path
    induction path with
    | nil =>
        intro ancestors
        rfl
    | cons index path inductionHypothesis =>
        intro ancestors
        cases ancestors with
        | nil =>
            rfl
        | cons parent ancestors =>
            rw [replaceAncestors, climb, climb, List.map_cons,
              inductionHypothesis ancestors]
            rfl
  exact climbs site.path site.ancestors

/-- The path of a proper ancestor is an end of the path. -/
theorem path_suffix_of_mem_above {site ancestor : Site}
    (member : ancestor ∈ site.above) : ancestor.path <:+ site.path := by
  have climbs : ∀ (path : Path) (ancestors : List Node),
      ∀ ancestor ∈ climb path ancestors, ancestor.path <:+ path := by
    intro path
    induction path with
    | nil =>
        intro ancestors ancestor member
        simp [climb] at member
    | cons index path inductionHypothesis =>
        intro ancestors ancestor member
        cases ancestors with
        | nil =>
            simp [climb] at member
        | cons parent ancestors =>
            rw [climb, List.mem_cons] at member
            rcases member with rfl | higher
            · exact List.suffix_cons index path
            · exact (inductionHypothesis ancestors ancestor higher).trans
                (List.suffix_cons index path)
  exact climbs site.path site.ancestors ancestor member

end Site

theorem Path.not_suffix_of_cons {place path : Path} {index : Nat}
    (outside : ¬ place <:+ index :: path) : ¬ place <:+ path := by
  intro inside
  exact outside (inside.trans (List.suffix_cons index path))

namespace Node

/-- A path leads to one site of a tree only. -/
theorem eq_of_path_eq {tree : Node} {left right : Site}
    (leftMember : left ∈ tree.sites) (rightMember : right ∈ tree.sites)
    (same : left.path = right.path) : left = right := by
  have distinct : (tree.sites.map Site.path).Nodup := by
    rw [List.Nodup, List.pairwise_map]
    refine tree.sites_pairwise.imp ?_
    intro earlier later before equal
    rw [equal] at before
    exact Path.before_irrefl _ before
  exact List.inj_on_of_nodup_map distinct leftMember rightMember same

/-- The proper ancestors of a site of a tree are sites of the tree. -/
theorem above_mem_sites {tree : Node} {site : Site}
    (member : site ∈ tree.sites) :
    ∀ ancestor ∈ site.above, ancestor ∈ tree.sites := by
  refine (sites_induction (motive := fun site => site ∈ tree.sites ∧
    ∀ ancestor ∈ site.above, ancestor ∈ tree.sites) ?_ ?_ site member).2
  · refine ⟨tree.root_mem_sites, ?_⟩
    intro ancestor impossible
    simp [Site.above, Site.root, Site.climb] at impossible
  · intro parent holds child below
    refine ⟨child_mem_sites holds.1 below, ?_⟩
    intro ancestor ancestorMember
    rw [Site.above_of_mem_children below, List.mem_cons] at ancestorMember
    rcases ancestorMember with rfl | higher
    · exact holds.1
    · exact holds.2 ancestor higher

/-- What is not at or below the exchanged part has its counterpart in the new
tree. -/
theorem replace_mem_sites {tree : Node} {place : Path} (fresh : Node) :
    ∀ site ∈ tree.sites, ¬ place <:+ site.path →
      site.replace place fresh ∈ (tree.replace place fresh).sites := by
  apply sites_induction
  · intro _
    rw [Site.replace_root]
    exact root_mem_sites _
  · intro site inductionHypothesis child below outside
    obtain ⟨index, pathShape, _⟩ := Site.eq_of_mem_children below
    rw [pathShape] at outside
    have siteOutside := Path.not_suffix_of_cons outside
    refine child_mem_sites (inductionHypothesis siteOutside) ?_
    rw [Site.replace_children fun same => siteOutside (same ▸ List.suffix_rfl)]
    exact List.mem_map_of_mem below

/-- What is not at or below the exchanged part of the new tree is the counterpart
of a site of the old one. -/
theorem exists_of_mem_sites_replace
    {tree : Node} {place : Path} {fresh : Node} :
    ∀ twin ∈ (tree.replace place fresh).sites, ¬ place <:+ twin.path →
      ∃ site ∈ tree.sites, site.replace place fresh = twin := by
  apply sites_induction
  · intro _
    exact ⟨Site.root tree, tree.root_mem_sites, Site.replace_root tree⟩
  · intro twin inductionHypothesis child below outside
    obtain ⟨index, pathShape, _⟩ := Site.eq_of_mem_children below
    rw [pathShape] at outside
    have twinOutside := Path.not_suffix_of_cons outside
    obtain ⟨site, member, rfl⟩ := inductionHypothesis twinOutside
    have elsewhere : site.path ≠ place :=
      fun same => twinOutside (same ▸ List.suffix_rfl)
    rw [Site.replace_children elsewhere, List.mem_map] at below
    obtain ⟨original, originalBelow, isTwin⟩ := below
    exact ⟨original, child_mem_sites member originalBelow, isTwin⟩

end Node

end CallAudit
