import CallAudit.Proofs.Risk.Leaf
import CallAudit.Proofs.Scope.Covering
import CallAudit.Risk.Verdict

/-!
# Verdicts on counterparts

Everything that a verdict looks at is found again at the counterpart of an
argument: the operand in its parentheses, the leaves of a conditional, the chain
of an access, the declarator around it, and the bindings of its names.  So an
argument and its counterpart get the same verdict
(`Counterparts.Covers.ofArgument_twin`).
-/

namespace CallAudit

namespace Counterparts

variable (twins : Counterparts) {site : Site}

/-- A node and its counterpart both lack a child with a role, or both have one,
of the same kind and with the same text. -/
theorem twin_node_child? (kept : twins.Kept site)
    (kind : site.kind ≠ "arguments") (role : String) (other : role ≠ "body") :
    ((twins.twin site).node.child? role = none ∧
        site.node.child? role = none) ∨
      ∃ twinChild child,
        (twins.twin site).node.child? role = some twinChild ∧
          site.node.child? role = some child ∧
          twinChild.kind = child.kind ∧ twinChild.text = child.text := by
  rw [← Site.map_node_child?, ← Site.map_node_child?,
    twins.twin_child? kept kind other]
  cases found : site.child? role with
  | none =>
      exact Or.inl ⟨rfl, rfl⟩
  | some child =>
      have childKept := twins.kept_child? kept kind other found
      exact Or.inr ⟨_, _, rfl, rfl, twins.twin_kind childKept,
        twins.twin_text childKept⟩

theorem twin_child?_text (kept : twins.Kept site)
    (kind : site.kind ≠ "arguments") {role : String} (other : role ≠ "body") :
    ((twins.twin site).node.child? role).map Node.text =
      (site.node.child? role).map Node.text := by
  obtain ⟨twinNone, none⟩ | ⟨_, _, twinSome, some, _, text⟩ :=
    twins.twin_node_child? kept kind role other
  · rw [twinNone, none]
  · simp only [twinSome, some, Option.map_some, text]

theorem twin_isOperand (kept : twins.Kept site) :
    (twins.twin site).node.isOperand = site.node.isOperand := by
  have sameKind : (twins.twin site).node.kind = site.node.kind :=
    twins.twin_kind kept
  rw [Node.isOperand, Node.isOperand, sameKind, twins.twin_named kept]

theorem twin_operands (kept : twins.Kept site) (listed : twins.Listed site) :
    (twins.twin site).operands = site.operands.map twins.twin := by
  have noComment : ∀ comment, Site.IsComment comment →
      comment.node.isOperand = false := by
    intro comment isComment
    have kind : comment.node.kind = "comment" := isComment
    simp [Node.isOperand, kind]
  rw [Site.operands, (twins.twin_children kept listed).filter_eq noComment,
    List.filter_map, Site.operands]
  congr 1
  apply List.filter_congr
  intro child below
  exact twins.twin_isOperand (twins.kept_child kept listed below)

theorem listed_of_parentheses (kept : twins.Kept site)
    (kind : site.kind = parenthesesKind) : twins.Listed site := by
  apply twins.listed_of_kind kept
  rw [kind]
  decide

/-! ## Parentheses and conditionals -/

theorem kept_unwrap (site : Site) (kept : twins.Kept site) :
    twins.Kept site.unwrap := by
  induction site using Site.inductionOnChildren with
  | step site inductionHypothesis =>
      rcases site.bare_or_parenthesized with
        bare | ⟨inner, below, kind, first⟩
      · rw [Site.unwrap_of_bare bare]
        exact kept
      · rw [Site.unwrap_of_parentheses kind first]
        have listed := twins.listed_of_parentheses kept kind
        exact inductionHypothesis inner below
          (twins.kept_child kept listed below)

theorem twin_unwrap (site : Site) (kept : twins.Kept site) :
    (twins.twin site).unwrap = twins.twin site.unwrap := by
  induction site using Site.inductionOnChildren with
  | step site inductionHypothesis =>
      have sameKind := twins.twin_kind kept
      rcases site.bare_or_parenthesized with
        bare | ⟨inner, below, kind, first⟩
      · rw [Site.unwrap_of_bare bare]
        apply Site.unwrap_of_bare
        intro kind
        rw [sameKind] at kind
        rw [twins.twin_operands kept (twins.listed_of_parentheses kept kind),
          bare kind, List.map_nil]
      · have listed := twins.listed_of_parentheses kept kind
        have twinFirst : (twins.twin site).operands.head? =
            some (twins.twin inner) := by
          rw [twins.twin_operands kept listed, List.head?_map, first]
          rfl
        rw [Site.unwrap_of_parentheses kind first,
          Site.unwrap_of_parentheses (sameKind.trans kind) twinFirst]
        exact inductionHypothesis inner below
          (twins.kept_child kept listed below)

theorem twin_branches (kept : twins.Kept site)
    (kind : site.kind = conditionalKind) :
    (twins.twin site).branches = site.branches.map twins.twin := by
  have notArguments : site.kind ≠ "arguments" := by
    rw [kind]
    decide
  rw [Site.branches, Site.branches,
    twins.twin_child? kept notArguments (by decide),
    twins.twin_child? kept notArguments (by decide), List.map_append,
    Option.toList_map, Option.toList_map]

theorem kept_of_mem_branches (kept : twins.Kept site)
    (kind : site.kind = conditionalKind) :
    ∀ branch ∈ site.branches, twins.Kept branch := by
  have notArguments : site.kind ≠ "arguments" := by
    rw [kind]
    decide
  intro branch member
  rw [Site.branches, List.mem_append, Option.mem_toList,
    Option.mem_toList] at member
  rcases member with found | found
  · exact twins.kept_child? kept notArguments (by decide) found
  · exact twins.kept_child? kept notArguments (by decide) found

/-- The loop over pending branches finds the counterparts of the leaves. -/
theorem leavesFrom_twin (stack : List Site)
    (kept : ∀ site ∈ stack, twins.Kept site) :
    Site.leavesFrom (stack.map twins.twin) =
      (Site.leavesFrom stack).map twins.twin := by
  fun_induction Site.leavesFrom stack with
  | case1 =>
      rw [List.map_nil, Site.leavesFrom]
  | case2 site pending conditional inductionHypothesis =>
      rw [List.forall_mem_cons] at kept
      have kind := beq_iff_eq.mp conditional
      have innerKept := twins.kept_unwrap site kept.1
      have branchesKept := twins.kept_of_mem_branches innerKept kind
      rw [← inductionHypothesis (by
        intro other member
        rcases List.mem_append.mp member with branch | later
        · exact branchesKept other branch
        · exact kept.2 other later), List.map_cons, Site.leavesFrom,
        twins.twin_unwrap site kept.1, twins.twin_kind innerKept,
        if_pos conditional, twins.twin_branches innerKept kind,
        List.map_append]
  | case3 site pending other inductionHypothesis =>
      rw [List.forall_mem_cons] at kept
      have innerKept := twins.kept_unwrap site kept.1
      rw [List.map_cons, Site.leavesFrom, twins.twin_unwrap site kept.1,
        twins.twin_kind innerKept, if_neg other, List.map_cons,
        inductionHypothesis kept.2]

end Counterparts

/-! ## Accesses, site by site -/

theorem shortCircuitsFirst_eq (nodes : List Node) :
    shortCircuitsFirst nodes =
      (nodes.find? Node.isOperand).any Node.shortCircuits := by
  induction nodes with
  | nil =>
      rfl
  | cons node rest inductionHypothesis =>
      rw [shortCircuitsFirst, List.find?_cons, inductionHypothesis]
      cases node.isOperand with
      | true =>
          rfl
      | false =>
          rfl

theorem shortCircuitsIn_eq (role : String) (nodes : List Node) :
    shortCircuitsIn role nodes =
      (nodes.find? fun node => node.field == some role).any
        Node.shortCircuits := by
  induction nodes with
  | nil =>
      rfl
  | cons node rest inductionHypothesis =>
      rw [shortCircuitsIn, List.find?_cons, inductionHypothesis]
      cases node.field == some role with
      | true =>
          rfl
      | false =>
          rfl

namespace Site

theorem map_node_head?_operands (site : Site) :
    site.operands.head?.map Site.node =
      site.node.children.find? Node.isOperand := by
  rw [head?_operands, ← map_node_children, List.find?_map]
  rfl

theorem hasOptionalMark_eq (site : Site) :
    site.node.hasOptionalMark =
      site.children.any fun child => child.kind == "optional_chain" := by
  rw [Node.hasOptionalMark, ← map_node_children, List.any_map]
  rfl

/-- A chain short-circuits in its own site or in the next link. -/
theorem shortCircuits_eq (site : Site) :
    site.node.shortCircuits =
      if site.kind == parenthesesKind then
        site.operands.head?.any fun inner => inner.node.shortCircuits
      else if memberKinds.contains site.kind then
        site.node.hasOptionalMark ||
          (site.child? "object").any fun object => object.node.shortCircuits
      else if site.kind == "call_expression" then
        site.node.hasOptionalMark ||
          (site.child? "function").any fun callee => callee.node.shortCircuits
      else
        false := by
  have inner := map_node_head?_operands site
  have link : ∀ role, ((site.child? role).any fun child =>
      child.node.shortCircuits) =
        (site.node.child? role).any Node.shortCircuits := by
    intro role
    rw [← map_node_child?, Option.any_map]
  have first : (site.operands.head?.any fun inner =>
      inner.node.shortCircuits) =
        (site.node.children.find? Node.isOperand).any Node.shortCircuits := by
    rw [← inner, Option.any_map]
  rw [link, link, first]
  obtain ⟨path, ancestors, ⟨label, nodes⟩⟩ := site
  rw [Node.shortCircuits, shortCircuitsFirst_eq, shortCircuitsIn_eq,
    shortCircuitsIn_eq]
  rfl

end Site

theorem Node.unwrap_mem_sites {tree : Node} (site : Site)
    (member : site ∈ tree.sites) : site.unwrap ∈ tree.sites := by
  induction site using Site.inductionOnChildren with
  | step site inductionHypothesis =>
      rcases site.bare_or_parenthesized with
        bare | ⟨inner, below, kind, first⟩
      · rw [Site.unwrap_of_bare bare]
        exact member
      · rw [Site.unwrap_of_parentheses kind first]
        exact inductionHypothesis inner below
          (Node.child_mem_sites member below)

/-- The ancestors of a site are the nodes of the sites above it. -/
theorem Node.map_node_above {tree : Node} :
    ∀ site ∈ tree.sites, site.above.map Site.node = site.ancestors := by
  apply sites_induction
  · rfl
  · intro site holds child below
    obtain ⟨_, _, ancestorShape, _⟩ := Site.eq_of_mem_children below
    rw [Site.above_of_mem_children below, List.map_cons, holds, ancestorShape]

/-- The declarator around an access decides, with the entries of its
pattern. -/
theorem Site.hasDestructuringDefault_eq {tree : Node} {site : Site}
    (member : site ∈ tree.sites) :
    site.hasDestructuringDefault =
      site.node.propertyKey?.any fun key =>
        (site.above.find? fun scope =>
          scope.kind == "variable_declarator").any fun declarator =>
            (declarator.child? "name").any fun pattern =>
              pattern.kind == "object_pattern" &&
                pattern.namedChildren.any fun entry =>
                  entry.node.givesDefault key := by
  rw [hasDestructuringDefault, ← Node.map_node_above site member,
    List.find?_map]
  cases site.node.propertyKey? with
  | none =>
      rfl
  | some key =>
      have sameSearch : (fun node : Node => node.kind == "variable_declarator") ∘
          Site.node = fun scope => scope.kind == "variable_declarator" :=
        rfl
      rw [sameSearch]
      cases site.above.find? fun scope =>
          scope.kind == "variable_declarator" with
      | none =>
          rfl
      | some declarator =>
          simp only [Option.map_some, Option.any_some,
            ← map_node_child?]
          cases declarator.child? "name" with
          | none =>
              rfl
          | some pattern =>
              have entries : pattern.node.namedChildren =
                  pattern.namedChildren.map Site.node := by
                rw [Node.namedChildren, ← map_node_children, List.filter_map]
                rfl
              simp only [Option.map_some, Option.any_some, entries,
                List.any_map]
              rfl

/-! ## Accesses at counterparts -/

namespace Site

variable {site : Site}

theorem kind_ne_arguments_of_not_guarded
    (kinds : site.kind ∉ guardedKinds) : site.kind ≠ "arguments" := by
  intro same
  rw [same] at kinds
  exact kinds List.mem_cons_self

theorem kind_not_guarded_of_member
    (isMember : memberKinds.contains site.kind = true) :
    site.kind ∉ guardedKinds := by
  rw [List.contains_iff_mem, memberKinds] at isMember
  simp only [List.mem_cons, List.not_mem_nil, or_false] at isMember
  rcases isMember with kind | kind
  · rw [kind]
    decide
  · rw [kind]
    decide

end Site

namespace Counterparts

variable (twins : Counterparts) {site : Site}

theorem any_map_twin {found : Option Site} {test twinTest : Site → Bool}
    (same : ∀ child, found = some child →
      twinTest (twins.twin child) = test child) :
    (found.map twins.twin).any twinTest = found.any test := by
  cases found with
  | none =>
      rfl
  | some child =>
      exact same child rfl

theorem twin_hasOptionalMark (kept : twins.Kept site)
    (listed : twins.Listed site) :
    (twins.twin site).node.hasOptionalMark = site.node.hasOptionalMark := by
  have noComment : ∀ comment, Site.IsComment comment →
      (comment.kind == "optional_chain") = false := by
    intro comment isComment
    rw [isComment]
    decide
  rw [Site.hasOptionalMark_eq, Site.hasOptionalMark_eq,
    (twins.twin_children kept listed).any_eq noComment, List.any_map,
    ← List.isSome_find?, ← List.isSome_find?]
  apply congrArg Option.isSome
  apply List.find?_congr
  intro child below
  rw [Function.comp_apply, twins.twin_kind (twins.kept_child kept listed below)]

theorem twin_shortCircuits (site : Site) (kept : twins.Kept site) :
    (twins.twin site).node.shortCircuits = site.node.shortCircuits := by
  induction site using Site.inductionOnChildren with
  | step site inductionHypothesis =>
      have link : ∀ role, role ≠ "body" → site.kind ≠ "arguments" →
          ((twins.twin site).child? role).any
              (fun child => child.node.shortCircuits) =
            (site.child? role).any fun child =>
              child.node.shortCircuits := by
        intro role other kind
        rw [twins.twin_child? kept kind other]
        apply twins.any_map_twin
        intro child found
        exact inductionHypothesis child (List.mem_of_find?_eq_some found)
          (twins.kept_child? kept kind other found)
      rw [Site.shortCircuits_eq, Site.shortCircuits_eq site,
        twins.twin_kind kept]
      split
      · next isParentheses =>
          have listed := twins.listed_of_parentheses kept
            (beq_iff_eq.mp isParentheses)
          rw [twins.twin_operands kept listed, List.head?_map]
          apply twins.any_map_twin
          intro inner first
          rw [Site.head?_operands] at first
          have below := List.mem_of_find?_eq_some first
          exact inductionHypothesis inner below
            (twins.kept_child kept listed below)
      split
      · next isMember =>
          have kinds := Site.kind_not_guarded_of_member isMember
          rw [twins.twin_hasOptionalMark kept
            (twins.listed_of_kind kept kinds), link "object" (by decide)
            (Site.kind_ne_arguments_of_not_guarded kinds)]
      split
      · next isCall =>
          have kind := beq_iff_eq.mp isCall
          rw [twins.twin_hasOptionalMark kept
            (twins.listed_of_kind kept (kind ▸ by decide)),
            link "function" (by decide) (kind ▸ by decide)]
      · rfl

theorem twin_propertyKey? (kept : twins.Kept site)
    (kind : site.kind ≠ "arguments") :
    (twins.twin site).node.propertyKey? = site.node.propertyKey? := by
  have sameKind : (twins.twin site).node.kind = site.node.kind :=
    twins.twin_kind kept
  rw [Node.propertyKey?, Node.propertyKey?, sameKind,
    twins.twin_child?_text kept kind (by decide)]
  obtain ⟨twinNone, none⟩ | ⟨_, _, twinSome, some, indexKind, text⟩ :=
    twins.twin_node_child? kept kind "index" (by decide)
  · rw [twinNone, none]
  · simp only [twinSome, some, indexKind, text]

theorem twin_propertySuffix (kept : twins.Kept site)
    (kind : site.kind ≠ "arguments") :
    (twins.twin site).node.propertySuffix = site.node.propertySuffix := by
  have sameKind : (twins.twin site).node.kind = site.node.kind :=
    twins.twin_kind kept
  rw [Node.propertySuffix, Node.propertySuffix, sameKind,
    twins.twin_child?_text kept kind (by decide)]
  obtain ⟨twinNone, none⟩ | ⟨_, _, twinSome, some, _, text⟩ :=
    twins.twin_node_child? kept kind "index" (by decide)
  · rw [twinNone, none]
  · simp only [twinSome, some, text]

theorem twin_givesDefault (kept : twins.Kept site) (key : String) :
    (twins.twin site).node.givesDefault key = site.node.givesDefault key := by
  have sameKind : (twins.twin site).node.kind = site.node.kind :=
    twins.twin_kind kept
  have elsewhere : ∀ {kind : String}, (site.node.kind == kind) = true →
      kind ≠ "arguments" → site.kind ≠ "arguments" := by
    intro kind isKind other
    have siteKind : site.kind = kind := beq_iff_eq.mp isKind
    exact siteKind ▸ other
  rw [Node.givesDefault, Node.givesDefault, sameKind]
  split
  · next isDefault =>
      obtain ⟨twinNone, none⟩ | ⟨_, _, twinSome, some, _, text⟩ :=
        twins.twin_node_child? kept (elsewhere isDefault (by decide))
          "left" (by decide)
      · rw [twinNone, none]
      · simp only [twinSome, some, text]
  split
  · next isPair =>
      obtain ⟨twinNone, none⟩ | ⟨_, _, twinSome, some, _, text⟩ :=
        twins.twin_node_child? kept (elsewhere isPair (by decide))
          "key" (by decide)
      · rw [twinNone, none]
      obtain ⟨valueTwinNone, valueNone⟩ |
          ⟨_, _, valueTwinSome, valueSome, valueKind, _⟩ :=
        twins.twin_node_child? kept (elsewhere isPair (by decide))
          "value" (by decide)
      · simp only [twinSome, some, valueTwinNone, valueNone]
      · simp only [twinSome, some, text, valueTwinSome, valueSome, valueKind]
  · rfl

/-- A pattern and its counterpart give the same properties a default. -/
theorem twin_entries (kept : twins.Kept site) (key : String) :
    (((twins.twin site).kind == "object_pattern") &&
        (twins.twin site).namedChildren.any fun entry =>
          entry.node.givesDefault key) =
      (site.kind == "object_pattern" &&
        site.namedChildren.any fun entry =>
          entry.node.givesDefault key) := by
  rw [twins.twin_kind kept]
  cases isPattern : site.kind == "object_pattern" with
  | false =>
      rfl
  | true =>
      have listed := twins.listed_of_kind kept
        (beq_iff_eq.mp isPattern ▸ by decide)
      have noComment : ∀ comment, Site.IsComment comment →
          comment.node.givesDefault key = false := by
        intro comment isComment
        have kind : comment.node.kind = "comment" := isComment
        simp [Node.givesDefault, kind]
      rw [(twins.twin_namedChildren kept listed).any_eq noComment,
        List.any_map, ← List.isSome_find?, ← List.isSome_find?]
      congr 2
      apply List.find?_congr
      intro entry below
      exact twins.twin_givesDefault
        (twins.kept_namedChild kept listed below) key

/-- What a name is bound to decides its verdict, not where. -/
theorem ofName_binding (name : String) (found : Option Binding) :
    Verdict.ofName name (found.map twins.binding) =
      Verdict.ofName name found := by
  cases found with
  | none =>
      rfl
  | some binding =>
      rfl

namespace Covers

variable {twins : Counterparts} {old new : Node}
  (covers : twins.Covers old new) {site : Site}

include covers

theorem hasDestructuringDefault_twin (member : site ∈ old.sites)
    (kind : site.kind ≠ "arguments") :
    (twins.twin site).hasDestructuringDefault =
      site.hasDestructuringDefault := by
  have kept := covers.kept site member
  have noDeclarator : ∀ extra, twins.Extra extra →
      (extra.kind == "variable_declarator") = false := by
    intro extra isExtra
    rcases twins.extra_kind isExtra with isKind | isKind
    · rw [isKind]
      decide
    · rw [isKind]
      decide
  have sameSearch : ∀ scope ∈ site.above,
      ((fun scope => scope.kind == "variable_declarator") ∘ twins.twin)
          scope =
        (scope.kind == "variable_declarator") := by
    intro scope above
    rw [Function.comp_apply,
      twins.twin_kind (twins.kept_above kept scope above)]
  rw [Site.hasDestructuringDefault_eq (covers.twin_mem_sites member),
    Site.hasDestructuringDefault_eq member, twins.twin_propertyKey? kept kind,
    (twins.twin_above kept).find?_eq noDeclarator, List.find?_map,
    List.find?_congr sameSearch]
  cases site.node.propertyKey? with
  | none =>
      rfl
  | some key =>
      apply twins.any_map_twin
      intro declarator found
      have declaratorKept := twins.kept_above kept declarator
        (List.mem_of_find?_eq_some found)
      have isDeclarator := List.find?_some found
      have declaratorKind : declarator.kind ≠ "arguments" :=
        beq_iff_eq.mp isDeclarator ▸ by decide
      rw [twins.twin_child? declaratorKept declaratorKind (by decide)]
      apply twins.any_map_twin
      intro pattern patternAt
      exact twins.twin_entries (twins.kept_child? declaratorKept
        declaratorKind (by decide) patternAt) key

/-! ## Verdicts -/

theorem ofAccess_twin (member : site ∈ old.sites)
    (isMember : memberKinds.contains site.kind = true) :
    Verdict.ofAccess (twins.twin site) = Verdict.ofAccess site := by
  have kept := covers.kept site member
  have kind := Site.kind_ne_arguments_of_not_guarded
    (Site.kind_not_guarded_of_member isMember)
  have text : (twins.twin site).node.text = site.node.text :=
    twins.twin_text kept
  rw [Verdict.ofAccess, Verdict.ofAccess, twins.twin_shortCircuits site kept,
    covers.hasDestructuringDefault_twin member kind,
    Verdict.ofUnguardedAccess, Verdict.ofUnguardedAccess,
    twins.twin_child?_text kept kind (by decide),
    twins.twin_propertySuffix kept kind, text]

theorem ofCall_twin (vocabulary : Vocabulary) (member : site ∈ old.sites)
    (isCall : site.kind = "call_expression") :
    Verdict.ofCall vocabulary (twins.twin site).node =
      Verdict.ofCall vocabulary site.node := by
  have kept := covers.kept site member
  have kind : site.kind ≠ "arguments" := isCall ▸ by decide
  rw [Verdict.ofCall, Verdict.ofCall]
  obtain ⟨twinNone, none⟩ | ⟨_, _, twinSome, some, calleeKind, text⟩ :=
    twins.twin_node_child? kept kind "function" (by decide)
  · rw [twinNone, none]
  · simp only [twinSome, some, calleeKind, text]

theorem ofLeaf_twin (vocabulary : Vocabulary) (member : site ∈ old.sites) :
    Verdict.ofLeaf vocabulary (ScopeTable.ofTree new).resolve
        (twins.twin site) =
      Verdict.ofLeaf vocabulary (ScopeTable.ofTree old).resolve site := by
  have kept := covers.kept site member
  rw [Verdict.ofLeaf, Verdict.ofLeaf, twins.twin_kind kept,
    twins.twin_text kept, covers.resolve_twin member, twins.ofName_binding]
  split
  · rfl
  split
  · rfl
  split
  · next isMember =>
      exact covers.ofAccess_twin member isMember
  split
  · next isCall =>
      exact covers.ofCall_twin vocabulary member (beq_iff_eq.mp isCall)
  · rfl

/-- An argument and its counterpart get the same verdict. -/
theorem ofArgument_twin (vocabulary : Vocabulary)
    (member : site ∈ old.sites) :
    Verdict.ofArgument vocabulary (ScopeTable.ofTree new).resolve
        (twins.twin site) =
      Verdict.ofArgument vocabulary (ScopeTable.ofTree old).resolve site := by
  have kept := covers.kept site member
  have innerMember := Node.unwrap_mem_sites site member
  have innerKept := covers.kept site.unwrap innerMember
  have leaves : (twins.twin site.unwrap).leaves =
      site.unwrap.leaves.map twins.twin := by
    have single : ∀ other ∈ [site.unwrap], twins.Kept other := by
      simpa using innerKept
    exact twins.leavesFrom_twin [site.unwrap] single
  simp only [Verdict.ofArgument, twins.twin_unwrap site kept,
    twins.twin_kind innerKept, leaves, List.map_map,
    covers.ofLeaf_twin vocabulary innerMember]
  split
  · apply congrArg Verdict.ofBranches
    apply List.map_congr_left
    intro leaf listed
    have isLeaf := (Site.mem_leaves_iff site.unwrap leaf).mp listed
    exact covers.ofLeaf_twin vocabulary (isLeaf.mem_sites innerMember)
  · rfl

end Covers

end Counterparts

end CallAudit
