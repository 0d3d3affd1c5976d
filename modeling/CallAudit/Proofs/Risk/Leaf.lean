import CallAudit.Proofs.Tree.Order
import CallAudit.Risk.Operand

/-!
# Leaves of expressions

An expression stands for its leaves: redundant parentheses are looked through,
and a conditional stands for its two branches.

`Site.HasLeaf` is the rule, and `Site.mem_leaves_iff` says that the loop over a
stack of pending branches finds exactly the leaves of the rule.
-/

namespace CallAudit

namespace Site

/-! ## Parentheses -/

theorem unwrapFirst?_eq
    (path : Path) (ancestors : List Node) (first : Nat) (nodes : List Node) :
    unwrapFirst? path ancestors first nodes =
      ((siblings path ancestors first nodes).find? fun child =>
        child.node.isOperand).map unwrap := by
  induction nodes generalizing first with
  | nil =>
      rfl
  | cons node rest inductionHypothesis =>
      rw [unwrapFirst?, siblings, List.find?_cons]
      cases isOperand : node.isOperand with
      | true =>
          simp [unwrap]
      | false =>
          simpa using inductionHypothesis (first + 1)

theorem head?_operands (site : Site) :
    site.operands.head? =
      site.children.find? fun child => child.node.isOperand := by
  rw [operands, List.head?_filter]

/-- Parentheses around an operand are looked through. -/
theorem unwrap_of_parentheses
    {site inner : Site} (kind : site.kind = parenthesesKind)
    (first : site.operands.head? = some inner) :
    site.unwrap = inner.unwrap := by
  rw [head?_operands] at first
  obtain ⟨path, ancestors, node⟩ := site
  cases node with
  | node label nodes =>
      have labelKind : label.kind = parenthesesKind := kind
      rw [unwrap, Node.unwrapAt, labelKind]
      simp only [beq_self_eq_true, if_true, unwrapFirst?_eq]
      rw [children] at first
      simp only [Node.children] at first
      rw [first]
      rfl

/-- What is not an operand in parentheses stands for itself. -/
theorem unwrap_of_bare
    {site : Site} (bare : site.kind = parenthesesKind → site.operands = []) :
    site.unwrap = site := by
  obtain ⟨path, ancestors, node⟩ := site
  cases node with
  | node label nodes =>
      rw [unwrap, Node.unwrapAt]
      by_cases kind : label.kind = parenthesesKind
      · have empty := bare kind
        have missing := head?_operands ⟨path, ancestors, .node label nodes⟩
        rw [empty, List.head?_nil, children] at missing
        simp only [Node.children] at missing
        simp only [kind, beq_self_eq_true, if_true, unwrapFirst?_eq]
        rw [← missing]
        rfl
      · simp [kind]

theorem bare_or_parenthesized (site : Site) :
    (site.kind = parenthesesKind → site.operands = []) ∨
      ∃ inner ∈ site.children,
        site.kind = parenthesesKind ∧ site.operands.head? = some inner := by
  by_cases kind : site.kind = parenthesesKind
  · cases shape : site.operands with
    | nil =>
        exact Or.inl fun _ => rfl
    | cons inner rest =>
        have listed : inner ∈ site.operands := by
          rw [shape]
          exact List.mem_cons_self
        exact Or.inr ⟨inner, (List.mem_filter.mp listed).1, kind, rfl⟩
  · exact Or.inl fun holds => absurd holds kind

/-- Looking through parentheses ends outside of parentheses, or at ones around
nothing. -/
theorem unwrap_bare (site : Site) :
    site.unwrap.kind = parenthesesKind → site.unwrap.operands = [] := by
  induction site using inductionOnChildren with
  | step site inductionHypothesis =>
      rcases site.bare_or_parenthesized with
        bare | ⟨inner, below, kind, first⟩
      · rw [unwrap_of_bare bare]
        exact bare
      · rw [unwrap_of_parentheses kind first]
        exact inductionHypothesis inner below

/-! ## The rule -/

/-- A leaf of an expression. -/
inductive HasLeaf : Site → Site → Prop
  /-- What is neither a conditional nor an operand in parentheses. -/
  | itself {site : Site} :
      site.kind ≠ conditionalKind →
      (site.kind = parenthesesKind → site.operands = []) →
      HasLeaf site site
  /-- A leaf of the operand in parentheses. -/
  | inside {site inner leaf : Site} :
      site.kind = parenthesesKind →
      site.operands.head? = some inner →
      HasLeaf inner leaf →
      HasLeaf site leaf
  /-- A leaf of the branch for a condition that holds. -/
  | consequence {site branch leaf : Site} :
      site.kind = conditionalKind →
      site.child? "consequence" = some branch →
      HasLeaf branch leaf →
      HasLeaf site leaf
  /-- A leaf of the branch for a condition that fails. -/
  | alternative {site branch leaf : Site} :
      site.kind = conditionalKind →
      site.child? "alternative" = some branch →
      HasLeaf branch leaf →
      HasLeaf site leaf

theorem conditionalKind_ne_parenthesesKind :
    conditionalKind ≠ parenthesesKind := by
  decide

theorem hasLeaf_inside_iff
    {site inner leaf : Site} (kind : site.kind = parenthesesKind)
    (first : site.operands.head? = some inner) :
    HasLeaf site leaf ↔ HasLeaf inner leaf := by
  constructor
  · intro has
    cases has with
    | itself _ bare =>
        rw [bare kind] at first
        simp at first
    | inside _ found has =>
        rw [first] at found
        cases found
        exact has
    | consequence conditional _ _ =>
        rw [kind] at conditional
        exact absurd conditional.symm conditionalKind_ne_parenthesesKind
    | alternative conditional _ _ =>
        rw [kind] at conditional
        exact absurd conditional.symm conditionalKind_ne_parenthesesKind
  · intro has
    exact .inside kind first has

theorem hasLeaf_unwrap_iff (site leaf : Site) :
    HasLeaf site.unwrap leaf ↔ HasLeaf site leaf := by
  induction site using inductionOnChildren with
  | step site inductionHypothesis =>
      rcases site.bare_or_parenthesized with
        bare | ⟨inner, below, kind, first⟩
      · rw [unwrap_of_bare bare]
      · rw [unwrap_of_parentheses kind first, hasLeaf_inside_iff kind first]
        exact inductionHypothesis inner below

theorem hasLeaf_conditional_iff
    {site leaf : Site} (kind : site.kind = conditionalKind) :
    HasLeaf site leaf ↔ ∃ branch ∈ site.branches, HasLeaf branch leaf := by
  simp only [branches, List.mem_append, Option.mem_toList]
  constructor
  · intro has
    cases has with
    | itself other _ =>
        exact absurd kind other
    | inside parenthesized _ _ =>
        rw [kind] at parenthesized
        exact absurd parenthesized conditionalKind_ne_parenthesesKind
    | consequence _ found has =>
        exact ⟨_, Or.inl found, has⟩
    | alternative _ found has =>
        exact ⟨_, Or.inr found, has⟩
  · rintro ⟨branch, found | found, has⟩
    · exact .consequence kind found has
    · exact .alternative kind found has

theorem hasLeaf_itself_iff
    {site leaf : Site} (kind : site.kind ≠ conditionalKind)
    (bare : site.kind = parenthesesKind → site.operands = []) :
    HasLeaf site leaf ↔ leaf = site := by
  constructor
  · intro has
    cases has with
    | itself _ _ =>
        rfl
    | inside parenthesized found _ =>
        rw [bare parenthesized] at found
        simp at found
    | consequence conditional _ _ =>
        exact absurd conditional kind
    | alternative conditional _ _ =>
        exact absurd conditional kind
  · rintro rfl
    exact .itself kind bare

/-! ## The loop -/

/-- The loop over a stack finds the leaves of the expressions on it. -/
theorem mem_leavesFrom_iff (stack : List Site) (leaf : Site) :
    leaf ∈ leavesFrom stack ↔ ∃ site ∈ stack, HasLeaf site leaf := by
  fun_induction leavesFrom stack with
  | case1 =>
      simp
  | case2 site pending conditional inductionHypothesis =>
      have kind := beq_iff_eq.mp conditional
      rw [inductionHypothesis]
      simp only [List.mem_append, List.mem_cons, or_and_right, exists_or,
        exists_eq_left, ← hasLeaf_conditional_iff kind, hasLeaf_unwrap_iff]
  | case3 site pending other inductionHypothesis =>
      have kind : site.unwrap.kind ≠ conditionalKind := by
        simpa using other
      simp only [inductionHypothesis, List.mem_cons, or_and_right, exists_or,
        exists_eq_left]
      rw [← hasLeaf_unwrap_iff site, hasLeaf_itself_iff kind site.unwrap_bare]

theorem mem_leaves_iff (site leaf : Site) :
    leaf ∈ site.leaves ↔ HasLeaf site leaf := by
  rw [leaves, mem_leavesFrom_iff]
  simp

/-- The leaves of an expression of a tree are sites of the tree. -/
theorem HasLeaf.mem_sites {tree : Node} {site leaf : Site}
    (has : HasLeaf site leaf) (member : site ∈ tree.sites) :
    leaf ∈ tree.sites := by
  induction has with
  | itself _ _ =>
      exact member
  | inside _ first _ inductionHypothesis =>
      apply inductionHypothesis
      rw [head?_operands] at first
      exact Node.child_mem_sites member (List.mem_of_find?_eq_some first)
  | consequence _ found _ inductionHypothesis =>
      exact inductionHypothesis (Node.child?_mem_sites member found)
  | alternative _ found _ inductionHypothesis =>
      exact inductionHypothesis (Node.child?_mem_sites member found)

end Site

end CallAudit
