import CallAudit.Proofs.Scope.Resolution
import CallAudit.Proofs.Tree.Replace

/-!
# Bodies of functions

Whatever stands in the body of a function, imports apart, declares names for
that function only (`Site.suffix_owner_of_body`).

`BodyChange` describes the exchange of a body for another one, and
`BodyChange.Kept` the sites that the exchange leaves in place: everything that a
construct outside the body looks at, when it declares names, is kept.
-/

namespace CallAudit

/-! ## Declarations inside a body -/

/-- A tree without import statements. -/
inductive Node.ImportFree : Node → Prop
  | node {label : Label} {children : List Node} :
      label.kind ≠ "import_statement" →
      (∀ child ∈ children, Node.ImportFree child) →
      Node.ImportFree (.node label children)

theorem Node.importFree_node_iff {label : Label} {children : List Node} :
    (Node.node label children).ImportFree ↔
      label.kind ≠ "import_statement" ∧
        ∀ child ∈ children, child.ImportFree := by
  constructor
  · rintro ⟨kind, childrenFree⟩
    exact ⟨kind, childrenFree⟩
  · rintro ⟨kind, childrenFree⟩
    exact .node kind childrenFree

namespace Site

theorem importFree_of_mem_subtree {top : Site}
    (free : top.node.ImportFree) :
    ∀ site ∈ top.subtree, site.node.ImportFree := by
  refine subtree_induction (motive := fun site => site.node.ImportFree) free ?_
  intro site siteFree child below
  obtain ⟨_, _, _, listed⟩ := eq_of_mem_children below
  obtain ⟨path, ancestors, ⟨label, children⟩⟩ := site
  exact (Node.importFree_node_iff.mp siteFree).2 child.node listed

theorem kind_ne_import_of_importFree {site : Site}
    (free : site.node.ImportFree) : site.kind ≠ "import_statement" := by
  obtain ⟨path, ancestors, ⟨label, children⟩⟩ := site
  exact (Node.importFree_node_iff.mp free).1

/-- The nearest scope above a site in the body of a function is the function or
lies inside it. -/
theorem suffix_nearest_of_mem_subtree
    {opens : Site → Bool} {function body : Site}
    (opened : opens function = true) (below : body ∈ function.children) :
    ∀ site ∈ body.subtree,
      function.path <:+ site.path ∧
        function.path <:+
          ((site.above.find? opens).map Site.path).getD [] := by
  apply subtree_induction
  · obtain ⟨index, pathShape, _⟩ := eq_of_mem_children below
    rw [above_of_mem_children below, List.find?_cons, opened, pathShape]
    exact ⟨List.suffix_cons index _, List.suffix_rfl⟩
  · intro site holds child childBelow
    obtain ⟨index, pathShape, _⟩ := eq_of_mem_children childBelow
    rw [above_of_mem_children childBelow, List.find?_cons, pathShape]
    refine ⟨holds.1.trans (List.suffix_cons index _), ?_⟩
    cases opens site with
    | true =>
        exact holds.1
    | false =>
        exact holds.2

theorem isScope_of_isFunctionScope {site : Site}
    (scope : site.isFunctionScope = true) : site.isScope = true := by
  rw [isScope, if_pos scope]

/-- A construct in the body of a function, other than an import, declares names
for the function or for a scope inside it. -/
theorem suffix_owner_of_mem_declarations
    {function body site : Site} (scope : function.isFunctionScope = true)
    (below : body ∈ function.children) (member : site ∈ body.subtree)
    (noImport : site.kind ≠ "import_statement") :
    ∀ declaration ∈ site.declarations,
      function.path <:+ declaration.owner := by
  intro declaration listed
  obtain ⟨_, ownership, introduced, owned⟩ :=
    declares_of_mem_declarations listed
  cases ownership with
  | hoisted =>
      rw [Ownership.owner_hoisted_iff.mp owned]
      exact (suffix_nearest_of_mem_subtree scope below site member).2
  | enclosing =>
      rw [Ownership.owner_enclosing_iff.mp owned]
      exact (suffix_nearest_of_mem_subtree
        (isScope_of_isFunctionScope scope) below site member).2
  | itself =>
      have isOwner : declaration.owner = site.path := owned
      rw [isOwner]
      exact (suffix_nearest_of_mem_subtree scope below site member).1
  | whole =>
      -- Only imports belong to the whole tree.
      generalize declaration.binding = binding at introduced
      cases introduced with
      | importedDefault kind => exact absurd kind noImport
      | importedNamespace kind => exact absurd kind noImport
      | importedMember kind => exact absurd kind noImport

/-- What the body of a function declares, imports apart, belongs to the function
or to a scope inside it. -/
theorem suffix_owner_of_body
    {function body : Site} (scope : function.isFunctionScope = true)
    (below : body ∈ function.children) (free : body.node.ImportFree) :
    ∀ declaration ∈ body.subtree.flatMap declarations,
      function.path <:+ declaration.owner := by
  intro declaration listed
  obtain ⟨site, member, declared⟩ := List.mem_flatMap.mp listed
  have noImport := kind_ne_import_of_importFree
    (importFree_of_mem_subtree free site member)
  exact suffix_owner_of_mem_declarations scope below member noImport
    declaration declared

end Site

/-! ## Exchanging a body -/

/-- A function of a tree, its body, and another body to stand in its place.
The function is not the list of parameters of another one, and neither body
holds an import. -/
structure BodyChange
    (tree : Node) (function body : Site) (fresh : Node) : Prop where
  present : function ∈ tree.sites
  functionLike : function.IsFunctionLike
  notParameters : ∀ parent, function.parent? = some parent →
    function.node.field ≠ some "parameters"
  isBody : body ∈ function.children
  role : body.node.field = some "body"
  freshRole : fresh.field = some "body"
  importFree : body.node.ImportFree
  freshImportFree : fresh.ImportFree

namespace BodyChange

variable {tree : Node} {function body : Site} {fresh : Node}

/-- The sites of the tree that the exchange leaves in place. -/
def Kept (_ : BodyChange tree function body fresh) (site : Site) : Prop :=
  site ∈ tree.sites ∧ ¬ body.path <:+ site.path

variable (change : BodyChange tree function body fresh)

include change

theorem body_mem_sites : body ∈ tree.sites :=
  Node.child_mem_sites change.present change.isBody

theorem isFunctionScope : function.isFunctionScope = true := by
  rw [Site.isFunctionScope, List.contains_iff_mem]
  exact change.functionLike.1

theorem ne_function_of_kind {site : Site}
    (kind : site.kind ∉ functionScopeKinds) : site ≠ function := by
  rintro rfl
  exact kind change.functionLike.1

variable {site child : Site}

theorem path_ne_of_kept (kept : change.Kept site) : site.path ≠ body.path :=
  fun same => kept.2 (same ▸ List.suffix_rfl)

theorem kept_of_mem_above (kept : change.Kept site) {ancestor : Site}
    (member : ancestor ∈ site.above) : change.Kept ancestor := by
  refine ⟨Node.above_mem_sites kept.1 ancestor member, ?_⟩
  intro inside
  exact kept.2 (inside.trans (Site.path_suffix_of_mem_above member))

/-- A child of a site that is kept is kept, or is the body. -/
theorem eq_body_or_kept (kept : change.Kept site)
    (below : child ∈ site.children) : child = body ∨ change.Kept child := by
  have childMember := Node.child_mem_sites kept.1 below
  by_cases inside : body.path <:+ child.path
  · left
    obtain ⟨index, pathShape, _⟩ := Site.eq_of_mem_children below
    rw [pathShape, List.suffix_cons_iff] at inside
    rcases inside with atPlace | above
    · exact Node.eq_of_path_eq childMember change.body_mem_sites
        (pathShape.trans atPlace.symm)
    · exact absurd above kept.2
  · exact Or.inr ⟨childMember, inside⟩

/-- The body hangs from the function. -/
theorem eq_function_of_body (member : site ∈ tree.sites)
    (below : body ∈ site.children) : site = function := by
  obtain ⟨index, pathShape, _⟩ := Site.eq_of_mem_children below
  obtain ⟨place, placeShape, _⟩ := Site.eq_of_mem_children change.isBody
  rw [pathShape, List.cons.injEq] at placeShape
  exact Node.eq_of_path_eq member change.present placeShape.2

theorem kept_child (kept : change.Kept site) (different : site ≠ function)
    (below : child ∈ site.children) : change.Kept child := by
  rcases change.eq_body_or_kept kept below with rfl | childKept
  · exact absurd (change.eq_function_of_body kept.1 below) different
  · exact childKept

theorem kept_namedChild (kept : change.Kept site) (different : site ≠ function)
    (below : child ∈ site.namedChildren) : change.Kept child :=
  change.kept_child kept different ((site.namedChildren_sublist).subset below)

theorem kept_child? (kept : change.Kept site) {role : String}
    (other : role ≠ "body") (found : site.child? role = some child) :
    change.Kept child := by
  have below := List.mem_of_find?_eq_some found
  rcases change.eq_body_or_kept kept below with rfl | childKept
  · have hasRole := List.find?_some found
    rw [change.role, beq_iff_eq, Option.some.injEq] at hasRole
    exact absurd hasRole.symm other
  · exact childKept

/-- Induction from the body, and from the children of every site that is kept,
up to the root. -/
theorem kept_induction {motive : Site → Prop} (atBody : motive body)
    (step : ∀ site, change.Kept site →
      (∀ child ∈ site.children, motive child) → motive site)
    (site : Site) (given : site = body ∨ change.Kept site) : motive site := by
  induction site using Site.inductionOnChildren with
  | step site inductionHypothesis =>
      rcases given with rfl | kept
      · exact atBody
      · refine step site kept ?_
        intro child below
        exact inductionHypothesis child below
          (change.eq_body_or_kept kept below)

end BodyChange

end CallAudit
