import CallAudit.Proofs.Issue.Counterpart
import Mathlib.Data.List.Forall2

/-!
# Parentheses around an argument do not matter

An argument of a call is put into parentheses.  Everything in the argument comes
to stand a level deeper, and the parentheses stand in the list of arguments.
Every other site keeps its path, so each site has a counterpart, with the
parentheses between some of them.  The verdicts on all arguments of all watched
calls stay the same (`Node.verdicts_kept_by_parentheses`).
-/

namespace CallAudit

/-- An argument of a call, and the parentheses that it is put into.  They take
over its role, and what it plays in them is left open. -/
structure Parenthesizing (tree : Node) (call list argument : Site)
    (inner wrapper : Node) : Prop where
  present : call ∈ tree.sites
  isCall : call.kind = "call_expression"
  listAt : call.child? "arguments" = some list
  listKind : list.kind = "arguments"
  isArgument : argument ∈ list.operands
  kind : wrapper.kind = parenthesesKind
  named : wrapper.named = true
  role : wrapper.field = argument.node.field
  content : wrapper.children = [inner]
  sameLabel : inner.label.withoutField = argument.node.label.withoutField
  sameChildren : inner.children = argument.node.children

/-- A path after the node at a place was put into parentheses: it gets one more
step where it enters them. -/
def Path.Sinks (place before after : Path) : Prop :=
  (¬ place <:+ before ∧ after = before) ∨
    ∃ steps, before = steps ++ place ∧ after = steps ++ 0 :: place

namespace Parenthesizing

variable {tree : Node} {call list argument : Site} {inner wrapper : Node}

/-- The argument gets a wrapper, and every index stays. -/
def relocation (_ : Parenthesizing tree call list argument inner wrapper) :
    Relocation where
  node := fun path node =>
    if path = argument.path then inner
    else Node.replaceAt argument.path wrapper path node
  index
    | [] => 0
    | index :: _ => index
  wrapper? := fun path => if path = argument.path then some wrapper else none

def wrapped (change : Parenthesizing tree call list argument inner wrapper) :
    Site :=
  ⟨argument.path,
    (change.relocation.twin list).node ::
      (change.relocation.twin list).ancestors, wrapper⟩

variable (change : Parenthesizing tree call list argument inner wrapper)
  {site : Site}

include change

/-! ## The argument and its list -/

theorem argument_below : argument ∈ list.children :=
  (List.mem_filter.mp change.isArgument).1

theorem list_mem_sites : list ∈ tree.sites :=
  Node.child?_mem_sites change.present change.listAt

theorem argument_mem_sites : argument ∈ tree.sites :=
  Node.child_mem_sites change.list_mem_sites change.argument_below

theorem argument_path : ∃ index, argument.path = index :: list.path := by
  obtain ⟨index, pathShape, _⟩ := Site.eq_of_mem_children change.argument_below
  exact ⟨index, pathShape⟩

theorem not_suffix_list : ¬ argument.path <:+ list.path := by
  obtain ⟨index, pathShape⟩ := change.argument_path
  rw [pathShape]
  exact Path.not_cons_suffix_self index list.path

theorem list_path_ne : list.path ≠ argument.path := by
  intro same
  exact change.not_suffix_list (same ▸ List.suffix_rfl)

theorem ne_list_of_kind (kind : site.kind ≠ "arguments") : site ≠ list := by
  rintro rfl
  exact kind change.listKind

/-- Only the list has the argument as a child. -/
theorem path_ne_of_ne_list (member : site ∈ tree.sites) (other : site ≠ list)
    (index : Nat) : index :: site.path ≠ argument.path := by
  obtain ⟨place, pathShape⟩ := change.argument_path
  rw [pathShape]
  intro same
  exact other (Node.eq_of_path_eq member change.list_mem_sites
    (List.cons.inj same).2)

theorem child_path_ne {child : Site} (member : site ∈ tree.sites)
    (other : site ≠ list) (below : child ∈ site.children) :
    child.path ≠ argument.path := by
  obtain ⟨index, pathShape, _⟩ := Site.eq_of_mem_children below
  rw [pathShape]
  exact change.path_ne_of_ne_list member other index

/-! ## Labels -/

theorem wrapper?_argument :
    change.relocation.wrapper? argument.path = some wrapper :=
  if_pos rfl

theorem wrapper?_elsewhere {path : Path} (elsewhere : path ≠ argument.path) :
    change.relocation.wrapper? path = none :=
  if_neg elsewhere

theorem node_argument (node : Node) :
    change.relocation.node argument.path node = inner :=
  if_pos rfl

theorem node_elsewhere {path : Path} (elsewhere : path ≠ argument.path)
    (node : Node) :
    change.relocation.node path node =
      Node.replaceAt argument.path wrapper path node :=
  if_neg elsewhere

theorem label_elsewhere (elsewhere : site.path ≠ argument.path) :
    (change.relocation.twin site).node.label = site.node.label := by
  rw [Relocation.twin, change.node_elsewhere elsewhere]
  exact Site.replace_label elsewhere

theorem twin_label (member : site ∈ tree.sites) :
    (change.relocation.twin site).node.label.withoutField =
      site.node.label.withoutField := by
  by_cases atPlace : site.path = argument.path
  · have same := Node.eq_of_path_eq member change.argument_mem_sites atPlace
    rw [same, Relocation.twin, change.node_argument]
    exact change.sameLabel
  · rw [change.label_elsewhere atPlace]

theorem twin_kind (member : site ∈ tree.sites) :
    (change.relocation.twin site).kind = site.kind := by
  have same := congrArg Label.kind (change.twin_label member)
  exact same

/-! ## Paths -/

theorem move_of_not_suffix {path : Path}
    (outside : ¬ argument.path <:+ path) :
    change.relocation.move path = path := by
  induction path with
  | nil =>
      rfl
  | cons index path inductionHypothesis =>
      have elsewhere : index :: path ≠ argument.path :=
        fun same => outside (same ▸ List.suffix_rfl)
      rw [Relocation.move_of_unwrapped (change.wrapper?_elsewhere elsewhere),
        inductionHypothesis (Path.not_suffix_of_cons outside)]
      rfl

theorem move_append (steps : Path) :
    change.relocation.move (steps ++ argument.path) =
      steps ++ 0 :: argument.path := by
  induction steps with
  | nil =>
      obtain ⟨index, pathShape⟩ := change.argument_path
      have isWrapped := change.wrapper?_argument
      rw [pathShape] at isWrapped
      rw [List.nil_append, List.nil_append, pathShape,
        Relocation.move_of_wrapped isWrapped,
        change.move_of_not_suffix change.not_suffix_list]
      rfl
  | cons step steps inductionHypothesis =>
      have elsewhere : step :: (steps ++ argument.path) ≠ argument.path := by
        intro same
        have lengths := congrArg List.length same
        rw [List.length_cons, List.length_append] at lengths
        omega
      rw [List.cons_append,
        Relocation.move_of_unwrapped (change.wrapper?_elsewhere elsewhere),
        inductionHypothesis]
      rfl

theorem sinks_move (path : Path) :
    argument.path.Sinks path (change.relocation.move path) := by
  by_cases inside : argument.path <:+ path
  · obtain ⟨steps, rfl⟩ := inside
    exact Or.inr ⟨steps, rfl, change.move_append steps⟩
  · exact Or.inl ⟨inside, change.move_of_not_suffix inside⟩

/-- No site moves to the place of the parentheses. -/
theorem move_ne_argument_path (path : Path) :
    change.relocation.move path ≠ argument.path := by
  intro same
  rcases change.sinks_move path with ⟨outside, moved⟩ | ⟨steps, _, moved⟩
  · rw [same] at moved
    exact outside (moved ▸ List.suffix_rfl)
  · have lengths := congrArg List.length (same.symm.trans moved)
    rw [List.length_append, List.length_cons] at lengths
    omega

theorem of_isWrapper (isWrapper : change.relocation.IsWrapper site) :
    site.node = wrapper ∧ site.path = argument.path := by
  obtain ⟨first, path, found, place⟩ := isWrapper
  by_cases atPlace : first :: path = argument.path
  · rw [atPlace, change.wrapper?_argument] at found
    have outside : ¬ argument.path <:+ path := by
      rw [← atPlace]
      exact Path.not_cons_suffix_self first path
    rw [change.move_of_not_suffix outside] at place
    exact ⟨(Option.some.inj found).symm, place.trans atPlace⟩
  · rw [change.wrapper?_elsewhere atPlace] at found
    cases found

theorem move_injective : Function.Injective change.relocation.move := by
  apply Relocation.move_injective
  · intro path left right same
    exact same
  · intro site isWrapper path
    rw [(change.of_isWrapper isWrapper).2]
    exact change.move_ne_argument_path path

/-! ## Children -/

theorem twin_children (member : site ∈ tree.sites) (other : site ≠ list) :
    (change.relocation.twin site).children =
      site.children.map change.relocation.twin := by
  apply Relocation.twin_children
  · intro index
    exact change.wrapper?_elsewhere
      (change.path_ne_of_ne_list member other index)
  · exact fun _ => rfl
  · by_cases atPlace : site.path = argument.path
    · obtain rfl :=
        Node.eq_of_path_eq member change.argument_mem_sites atPlace
      have unchanged : ∀ index node, 0 ≤ index →
          index < 0 + site.node.children.length →
            change.relocation.node (index :: site.path) node = node := by
        intro index node _ _
        rw [change.node_elsewhere (List.cons_ne_self index site.path)]
        exact Node.replaceAt_eq_self _
          (Path.not_cons_suffix_self index site.path) node
      rw [Relocation.among_eq_self unchanged, change.node_argument]
      exact change.sameChildren
    · have exchanged : ∀ index node,
          change.relocation.node (index :: site.path) node =
            Node.replaceAt argument.path wrapper (index :: site.path) node := by
        intro index node
        exact change.node_elsewhere
          (change.path_ne_of_ne_list member other index) node
      rw [Relocation.among_eq_replaceAmong exchanged,
        change.node_elsewhere atPlace]
      exact Node.replaceAt_children wrapper atPlace site.node

theorem wrapped_children :
    change.wrapped.children = [change.relocation.twin argument] := by
  obtain ⟨index, pathShape, ancestorShape, _⟩ :=
    Site.eq_of_mem_children change.argument_below
  have isWrapped := change.wrapper?_argument
  have moved : change.relocation.move argument.path = 0 :: argument.path :=
    change.move_append []
  have above : change.relocation.ancestors argument.path argument.ancestors =
      wrapper :: (change.relocation.twin list).node ::
        (change.relocation.twin list).ancestors := by
    rw [pathShape] at isWrapped
    rw [pathShape, ancestorShape, Relocation.ancestors, isWrapped]
    rfl
  have isTwin : change.relocation.twin argument =
      ⟨0 :: argument.path,
        wrapper :: (change.relocation.twin list).node ::
          (change.relocation.twin list).ancestors, inner⟩ := by
    rw [← moved, ← above]
    exact congrArg (Site.mk _ _) (change.node_argument argument.node)
  rw [Site.children, wrapped, change.content, isTwin]
  rfl

/-- The siblings of the argument stay on both sides of it. -/
theorem list_children :
    ∃ left right, list.children = left ++ argument :: right ∧
      (change.relocation.twin list).children =
        left.map change.relocation.twin ++
          change.wrapped :: right.map change.relocation.twin := by
  obtain ⟨left, right, shape, place⟩ :=
    Site.split_of_mem_siblings change.argument_below
  rw [Nat.zero_add] at place
  obtain ⟨_, _, ancestorShape, _⟩ :=
    Site.eq_of_mem_children change.argument_below
  have isArgument : argument =
      ⟨left.length :: list.path, list.node :: list.ancestors,
        argument.node⟩ := by
    rw [← place, ← ancestorShape]
  refine ⟨Site.siblings list.path (list.node :: list.ancestors) 0 left,
    Site.siblings list.path (list.node :: list.ancestors) (left.length + 1)
      right, ?_, ?_⟩
  · rw [Site.children, shape, Site.siblings_append, Site.siblings,
      Nat.zero_add, ← isArgument]
  -- Beside the argument nothing is exchanged, wrapped or moved.
  have elsewhere : ∀ index,
      index < left.length ∨ left.length + 1 ≤ index →
        index :: list.path ≠ argument.path := by
    intro index beside same
    rw [place] at same
    have sameIndex := (List.cons.inj same).1
    omega
  have nodes : (change.relocation.twin list).node.children =
      left ++ wrapper :: right := by
    have exchanged := @replaceAmong_at list.path wrapper argument.node left
      right 0
    rw [Nat.zero_add, ← place] at exchanged
    rw [Relocation.twin, change.node_elsewhere change.list_path_ne,
      Node.replaceAt_children wrapper change.list_path_ne, shape, exchanged]
  have samePath : change.relocation.move list.path = list.path :=
    change.move_of_not_suffix change.not_suffix_list
  have around := @Relocation.twin_children_around change.relocation list left
    right wrapper (left.length + 1) 0 nodes rfl
    (fun index beside => change.wrapper?_elsewhere (elsewhere index beside))
    (by
      intro index beside node
      rw [change.node_elsewhere (elsewhere index beside)]
      apply Node.replaceAt_eq_self
      rw [place]
      exact Path.not_suffix_of_index_ne (by omega))
    (fun _ _ => rfl) (fun _ _ => rfl)
  rw [around, samePath, wrapped, place]

/-! ## Counterparts -/

theorem twin_child? (member : site ∈ tree.sites)
    (kind : site.kind ≠ "arguments") (role : String) :
    (change.relocation.twin site).child? role =
      (site.child? role).map change.relocation.twin := by
  have other := change.ne_list_of_kind kind
  rw [Site.child?, change.twin_children member other, List.find?_map,
    Site.child?]
  congr 1
  apply List.find?_congr
  intro child below
  rw [Function.comp_apply, Node.field, Node.field,
    change.label_elsewhere (change.child_path_ne member other below)]

/-- Neither the list nor the parentheses claim a block. -/
theorem twin_isScope (member : site ∈ tree.sites) :
    (change.relocation.twin site).isScope = site.isScope := by
  by_cases atPlace : site.path = argument.path
  · obtain rfl := Node.eq_of_path_eq member change.argument_mem_sites atPlace
    have inParentheses : change.relocation.twin site ∈
        change.wrapped.children := by
      rw [change.wrapped_children]
      exact List.mem_cons_self
    have wrappedKind : change.wrapped.kind = parenthesesKind := change.kind
    apply Site.isScope_congr (change.twin_kind member)
    rw [Site.parent?, Site.parent?, Site.above_of_mem_children inParentheses,
      Site.above_of_mem_children change.argument_below, List.head?_cons,
      List.head?_cons, Option.any_some, Option.any_some, Site.claimsBlock,
      Site.claimsBlock, Site.isFunctionScope, Site.isFunctionScope,
      wrappedKind, change.listKind]
    decide
  · exact Relocation.twin_isScope (fun _ => change.twin_kind) member
      (change.wrapper?_elsewhere atPlace)

theorem parameters_ne_list {parameters : Site}
    (listAt : site.child? "parameters" = some parameters) :
    parameters ≠ list := by
  rintro rfl
  have asParameters := List.find?_some listAt
  have asArguments := List.find?_some change.listAt
  rw [beq_iff_eq.mp asParameters] at asArguments
  exact absurd (beq_iff_eq.mp asArguments) (by decide)

/-- Every site has a counterpart, and the parentheses come in between. -/
def counterparts : Counterparts where
  Kept := fun site => site ∈ tree.sites
  Extra := fun site => site.node = wrapper ∧ site.path = argument.path
  Listed := fun site => site ≠ list
  twin := change.relocation.twin
  move := change.relocation.move
  move_root := rfl
  twin_path := fun _ => rfl
  twin_label := change.twin_label
  kept_above := Node.above_mem_sites
  twin_above := fun _ =>
    (Relocation.twin_above _).imp fun _ => change.of_isWrapper
  twin_isScope := change.twin_isScope
  kept_child? := fun member _ _ found => Node.child?_mem_sites member found
  twin_child? := fun member kind _ => change.twin_child? member kind _
  listed_of_kind := fun _ kinds =>
    change.ne_list_of_kind (Site.kind_ne_arguments_of_not_guarded kinds)
  listed_parameters := fun _ listAt => change.parameters_ne_list listAt
  kept_child := fun member _ below => Node.child_mem_sites member below
  twin_children := fun member other => by
    rw [change.twin_children member other]
    exact Woven.refl _
  extra_kind := fun isExtra => Or.inr (by
    rw [Site.kind, isExtra.1]
    exact change.kind)

/-- All sites reappear in their order, with the parentheses between them. -/
theorem sites_woven :
    Woven change.counterparts.Extra
      (tree.sites.map change.relocation.twin)
      (tree.replace argument.path wrapper).sites := by
  have atRoot : change.relocation.twin (Site.root tree) =
      Site.root (tree.replace argument.path wrapper) := by
    obtain ⟨index, pathShape⟩ := change.argument_path
    have notRoot : ([] : Path) ≠ argument.path := by
      rw [pathShape]
      exact (List.cons_ne_nil _ _).symm
    have node := change.node_elsewhere notRoot tree
    rw [Relocation.twin, Site.root, node]
    rfl
  have among : ∀ sites : List Site,
      (∀ site ∈ sites, Woven change.counterparts.Extra
        (site.subtree.map change.relocation.twin)
        (change.relocation.twin site).subtree) →
      Woven change.counterparts.Extra
        (sites.flatMap fun site => site.subtree.map change.relocation.twin)
        ((sites.map change.relocation.twin).flatMap Site.subtree) := by
    intro sites each
    have unwoven : Woven (fun _ => False) (sites.map change.relocation.twin)
        (sites.map change.relocation.twin) := Woven.refl _
    exact unwoven.flatMap each fun _ impossible => impossible.elim
  refine Relocation.sites_woven atRoot ?_
  intro site member inductionHypothesis
  by_cases same : site = list
  · rw [same] at inductionHypothesis ⊢
    obtain ⟨left, right, shape, newShape⟩ := change.list_children
    rw [shape, List.forall_mem_append, List.forall_mem_cons]
      at inductionHypothesis
    obtain ⟨leftWoven, argumentWoven, rightWoven⟩ := inductionHypothesis
    have around : Woven change.counterparts.Extra
        (argument.subtree.map change.relocation.twin)
        change.wrapped.subtree := by
      rw [Site.subtree_eq change.wrapped, change.wrapped_children,
        List.flatMap_singleton]
      exact .weave ⟨rfl, rfl⟩ argumentWoven
    rw [shape, newShape, List.flatMap_append, List.flatMap_append,
      List.flatMap_cons, List.flatMap_cons]
    exact (among left leftWoven).append (around.append (among right rightWoven))
  · rw [change.twin_children member same]
    exact among site.children inductionHypothesis

theorem covers :
    change.counterparts.Covers tree (tree.replace argument.path wrapper) where
  kept := fun _ member => member
  sites := change.sites_woven
  move_injective := change.move_injective
  move_ne := fun isExtra path => by
    rw [isExtra.2]
    exact change.move_ne_argument_path path

/-! ## Verdicts -/

/-- The parentheses get the verdict on the argument in them. -/
theorem ofArgument_wrapped (vocabulary : Vocabulary) :
    Verdict.ofArgument vocabulary
        (ScopeTable.ofTree (tree.replace argument.path wrapper)).resolve
        change.wrapped =
      Verdict.ofArgument vocabulary (ScopeTable.ofTree tree).resolve
        argument := by
  have isOperand : (change.relocation.twin argument).node.isOperand = true := by
    have same := change.counterparts.twin_isOperand change.argument_mem_sites
    exact same.trans (List.mem_filter.mp change.isArgument).2
  have first : change.wrapped.operands.head? =
      some (change.relocation.twin argument) := by
    rw [Site.operands, change.wrapped_children, List.filter_cons,
      if_pos isOperand, List.head?_cons]
  have sameOperand : change.wrapped.unwrap =
      (change.relocation.twin argument).unwrap :=
    Site.unwrap_of_parentheses change.kind first
  rw [← change.covers.ofArgument_twin vocabulary change.argument_mem_sites,
    Verdict.ofArgument, Verdict.ofArgument, sameOperand]
  rfl

theorem list_operands :
    ∃ left right, list.operands = left ++ argument :: right ∧
      (change.relocation.twin list).operands =
        left.map change.relocation.twin ++
          change.wrapped :: right.map change.relocation.twin := by
  obtain ⟨left, right, shape, newShape⟩ := change.list_children
  have members : ∀ site ∈ list.children, site ∈ tree.sites :=
    fun site below => Node.child_mem_sites change.list_mem_sites below
  rw [shape, List.forall_mem_append, List.forall_mem_cons] at members
  have beside : ∀ sites : List Site, (∀ site ∈ sites, site ∈ tree.sites) →
      ((sites.map change.relocation.twin).filter fun site =>
          site.node.isOperand) =
        (sites.filter fun site => site.node.isOperand).map
          change.relocation.twin := by
    intro sites inTree
    rw [List.filter_map]
    congr 1
    apply List.filter_congr
    intro site listed
    exact change.counterparts.twin_isOperand (inTree site listed)
  have argumentCounts : argument.node.isOperand = true :=
    (List.mem_filter.mp change.isArgument).2
  have wrappedCounts : change.wrapped.node.isOperand = true := by
    have wrappedKind : change.wrapped.node.kind = parenthesesKind := change.kind
    have wrappedNamed : change.wrapped.node.named = true := change.named
    rw [Node.isOperand, wrappedKind, wrappedNamed]
    decide
  refine ⟨left.filter fun site => site.node.isOperand,
    right.filter fun site => site.node.isOperand, ?_, ?_⟩
  · rw [Site.operands, shape, List.filter_append, List.filter_cons,
      if_pos argumentCounts]
  · rw [Site.operands, newShape, List.filter_append, List.filter_cons,
      if_pos wrappedCounts, beside left members.1, beside right members.2.2]

/-- The verdicts on what is in the list stay the same, in their order. -/
theorem list_verdicts (vocabulary : Vocabulary) :
    ((change.relocation.twin list).operands.map
        (Verdict.ofArgument vocabulary
          (ScopeTable.ofTree (tree.replace argument.path wrapper)).resolve)) =
      list.operands.map
        (Verdict.ofArgument vocabulary (ScopeTable.ofTree tree).resolve) := by
  obtain ⟨left, right, shape, newShape⟩ := change.list_operands
  have each : ∀ site ∈ list.operands,
      Verdict.ofArgument vocabulary
          (ScopeTable.ofTree (tree.replace argument.path wrapper)).resolve
          (change.relocation.twin site) =
        Verdict.ofArgument vocabulary (ScopeTable.ofTree tree).resolve site := by
    intro site listed
    exact change.covers.ofArgument_twin vocabulary
      (Node.child_mem_sites change.list_mem_sites
        (List.mem_filter.mp listed).1)
  rw [shape, List.forall_mem_append, List.forall_mem_cons] at each
  rw [shape, newShape, List.map_append, List.map_append, List.map_cons,
    List.map_cons, List.map_map, List.map_map,
    change.ofArgument_wrapped vocabulary]
  congr 1
  · exact List.map_congr_left each.1
  · congr 1
    exact List.map_congr_left each.2.2

theorem verdicts_twin (vocabulary : Vocabulary) {watched : WatchedCall}
    (isWatched : watched ∈ tree.watchedCalls vocabulary.watched) :
    (change.counterparts.watchedCall watched).verdicts vocabulary
        (ScopeTable.ofTree (tree.replace argument.path wrapper)).resolve =
      watched.verdicts vocabulary (ScopeTable.ofTree tree).resolve := by
  by_cases same : watched.site.child? "arguments" = some list
  · have newList : (change.relocation.twin watched.site).child? "arguments" =
        some (change.relocation.twin list) := by
      have found := change.covers.argumentList_twin isWatched
      rw [same] at found
      exact found
    have newArguments :
        (change.counterparts.watchedCall watched).site.callArguments =
          (change.relocation.twin list).operands := by
      rw [Site.callArguments, Counterparts.watchedCall]
      simp only [counterparts, newList]
    have oldArguments : watched.site.callArguments = list.operands := by
      rw [Site.callArguments, same]
    rw [WatchedCall.verdicts, WatchedCall.verdicts, newArguments, oldArguments]
    exact change.list_verdicts vocabulary
  · exact change.covers.verdicts_twin vocabulary isWatched
      fun other found equal => same (equal ▸ found)

end Parenthesizing

/-- The watched calls of a tree after an argument was put into parentheses are
those before, one by one: at the place that they moved to, with the same number
of arguments, and with the same verdict on each argument. -/
theorem Node.verdicts_kept_by_parentheses
    {tree : Node} {call list argument : Site} {inner wrapper : Node}
    (change : Parenthesizing tree call list argument inner wrapper)
    (vocabulary : Vocabulary) :
    List.Forall₂
      (fun before after : WatchedCall =>
        after.function = before.function ∧
          argument.path.Sinks before.site.path after.site.path ∧
          after.site.node.label.withoutField =
            before.site.node.label.withoutField ∧
          after.site.callArguments.length =
            before.site.callArguments.length ∧
          after.verdicts vocabulary
              (ScopeTable.ofTree
                (tree.replace argument.path wrapper)).resolve =
            before.verdicts vocabulary (ScopeTable.ofTree tree).resolve)
      (tree.watchedCalls vocabulary.watched)
      ((tree.replace argument.path wrapper).watchedCalls
        vocabulary.watched) := by
  rw [change.covers.watchedCalls, List.forall₂_map_right_iff,
    List.forall₂_same]
  intro watched isWatched
  have member := (site_of_mem_watchedCalls isWatched).1
  have sameVerdicts := change.verdicts_twin vocabulary isWatched
  have sameArity := congrArg List.length sameVerdicts
  rw [WatchedCall.verdicts, WatchedCall.verdicts, List.length_map,
    List.length_map] at sameArity
  exact ⟨rfl, change.sinks_move watched.site.path, change.twin_label member,
    sameArity, sameVerdicts⟩

/-- The call `mulDecimals(rate)` in parentheses. -/
def parenthesizedCall : Node :=
  .node { kind := parenthesesKind, text := "(mulDecimals(rate))" } [rateCall]

/-- The program `divDecimals((mulDecimals(rate)), fee)`. -/
def parenthesizedCalls : Node :=
  .node { kind := "program" }
    [callOf "divDecimals" [parenthesizedCall, feeArgument]]

theorem rateCall_parenthesizing :
    Parenthesizing nestedCalls outerCall outerArguments
      ⟨[0, 1, 0], [outerArguments.node, outerCall.node, nestedCalls], rateCall⟩
      rateCall parenthesizedCall where
  present := List.mem_of_getElem? (i := 1) rfl
  isCall := rfl
  listAt := rfl
  listKind := rfl
  isArgument := List.mem_of_getElem? (i := 0) rfl
  kind := rfl
  named := rfl
  role := rfl
  content := rfl
  sameLabel := rfl
  sameChildren := rfl

def WatchedCall.levels (tree : Node) (call : WatchedCall) :
    String × List Level :=
  (call.function,
    (call.verdicts Settings.standard.vocabulary
      (ScopeTable.ofTree tree).resolve).map Risk.level)

/-- The inner call is a watched call itself, in and out of parentheses. -/
theorem Node.verdicts_of_parenthesizedCalls :
    (parenthesizedCalls.watchedCalls
        Settings.standard.vocabulary.watched).map
          (WatchedCall.levels parenthesizedCalls) =
      [("divDecimals", [.low, .high]), ("mulDecimals", [.high])] := by
  have kept := verdicts_kept_by_parentheses rateCall_parenthesizing
    Settings.standard.vocabulary
  have isResult : nestedCalls.replace [0, 1, 0] parenthesizedCall =
      parenthesizedCalls :=
    rfl
  rw [isResult] at kept
  have each : List.Forall₂
      (fun before after : WatchedCall =>
        before.levels nestedCalls = after.levels parenthesizedCalls)
      (nestedCalls.watchedCalls Settings.standard.vocabulary.watched)
      (parenthesizedCalls.watchedCalls
        Settings.standard.vocabulary.watched) :=
    kept.imp fun _ _ holds =>
      Prod.ext holds.1.symm
        (congrArg (List.map Risk.level) holds.2.2.2.2.symm)
  have same := List.forall₂_map_left_iff.mpr
    (List.forall₂_map_right_iff.mpr each)
  rw [List.forall₂_eq_eq_eq] at same
  have levels : WatchedCall.levels nestedCalls = fun call =>
      (call.function,
        (call.verdicts Settings.standard.vocabulary
          (ScopeTable.ofDeclarations
            (nestedCalls.sites.flatMap Site.declarations)).resolve).map
              Risk.level) := by
    funext call
    rw [WatchedCall.levels, ScopeTable.ofTree, declarations, walk_eq_sites]
  rw [← same, watchedCalls, walk_eq_sites, levels]
  rfl

end CallAudit
