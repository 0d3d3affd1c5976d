import CallAudit.Proofs.Scope.Ownership
import CallAudit.Proofs.Tree.Relocation
import CallAudit.Risk.Operand
import Mathlib.Data.List.Basic
import Mathlib.Data.List.Find

/-!
# Counterparts of sites

When a tree is changed in one place, the sites that the change leaves alone
reappear in the new tree, perhaps at other paths.  `Counterparts` collects what
such a rule has to keep: the labels, the way up to the root, and the children of
every construct that declares names.  Then the declarations reappear as well
(`Counterparts.twin_declarations`).

Two kinds of nodes may come in between: comments among the children of a node,
and parentheses on the way up.
-/

namespace CallAudit

theorem map_ite_congr {α β : Type} {f : α → β} {condition : Prop}
    [Decidable condition] {yes no : List α} {mappedYes mappedNo : List β}
    (holds : condition → mappedYes = yes.map f)
    (fails : ¬ condition → mappedNo = no.map f) :
    (if condition then mappedYes else mappedNo) =
      (if condition then yes else no).map f := by
  by_cases given : condition
  · rw [if_pos given, if_pos given, holds given]
  · rw [if_neg given, if_neg given, fails given]

/-- A label without the role of the node in its parent. -/
def Label.withoutField (label : Label) : Label :=
  { label with field := none }

namespace Site

theorem map_node_child? (site : Site) (role : String) :
    (site.child? role).map Site.node = site.node.child? role := by
  rw [Node.child?, ← Site.map_node_children, List.find?_map]
  rfl

/-- A construct that is the scope of its own block. -/
def claimsBlock (site : Site) : Bool :=
  site.isFunctionScope || site.kind == "catch_clause"

/-- Whether a site is a scope depends on its kind and on the claim of its
parent. -/
theorem isScope_congr {left right : Site} (sameKind : left.kind = right.kind)
    (sameClaim : left.parent?.any claimsBlock = right.parent?.any claimsBlock) :
    left.isScope = right.isScope := by
  have isScope_eq : ∀ site : Site, site.isScope =
      if site.isFunctionScope then true
      else if site.kind == "statement_block" then
        !site.parent?.any claimsBlock
      else blockScopeKinds.contains site.kind := by
    intro site
    rw [isScope]
    cases site.parent? with
    | none =>
        rfl
    | some parent =>
        rw [Option.any_some, claimsBlock, Bool.not_or]
        rfl
  rw [isScope_eq, isScope_eq, isFunctionScope, isFunctionScope, sameKind,
    sameClaim]

def IsComment (site : Site) : Prop :=
  site.kind = "comment"

/-- A kind of node whose children a change may touch: the lists of arguments,
and the constructs with a body. -/
def guardedKinds : List String :=
  "arguments" :: functionScopeKinds

end Site

theorem Relocation.twin_isScope {relocation : Relocation} {tree : Node}
    {site : Site}
    (sameKind : ∀ other ∈ tree.sites,
      (relocation.twin other).kind = other.kind)
    (member : site ∈ tree.sites)
    (unwrapped : relocation.wrapper? site.path = none) :
    (relocation.twin site).isScope = site.isScope := by
  apply Site.isScope_congr (sameKind site member)
  rw [Relocation.twin_parent? unwrapped]
  cases parentAt : site.parent? with
  | none =>
      rfl
  | some parent =>
      have parentMember :=
        Node.above_mem_sites member parent (List.mem_of_head? parentAt)
      simp only [Option.map_some, Option.any_some, Site.claimsBlock,
        Site.isFunctionScope, sameKind parent parentMember]

/-- A rule that gives sites their counterparts in another tree. -/
structure Counterparts where
  /-- The sites that have a counterpart. -/
  Kept : Site → Prop
  /-- The sites of the other tree that come in between. -/
  Extra : Site → Prop
  /-- The sites all of whose children reappear. -/
  Listed : Site → Prop
  twin : Site → Site
  move : Path → Path
  move_root : move [] = []
  twin_path : ∀ {site}, Kept site → (twin site).path = move site.path
  twin_label : ∀ {site}, Kept site →
    (twin site).node.label.withoutField = site.node.label.withoutField
  kept_above : ∀ {site}, Kept site → ∀ ancestor ∈ site.above, Kept ancestor
  twin_above : ∀ {site}, Kept site →
    Woven Extra (site.above.map twin) (twin site).above
  twin_isScope : ∀ {site}, Kept site → (twin site).isScope = site.isScope
  kept_child? : ∀ {site child role}, Kept site → site.kind ≠ "arguments" →
    role ≠ "body" → site.child? role = some child → Kept child
  twin_child? : ∀ {site role}, Kept site → site.kind ≠ "arguments" →
    role ≠ "body" → (twin site).child? role = (site.child? role).map twin
  listed_of_kind : ∀ {site}, Kept site → site.kind ∉ Site.guardedKinds →
    Listed site
  listed_parameters : ∀ {site list}, Kept site →
    site.child? "parameters" = some list → Listed list
  kept_child : ∀ {site child}, Kept site → Listed site →
    child ∈ site.children → Kept child
  twin_children : ∀ {site}, Kept site → Listed site →
    Woven Site.IsComment (site.children.map twin) (twin site).children
  extra_kind : ∀ {site}, Extra site →
    site.kind = "comment" ∨ site.kind = parenthesesKind

namespace Counterparts

variable (twins : Counterparts) {site child : Site}

/-! ## Labels and children -/

theorem twin_kind (kept : twins.Kept site) :
    (twins.twin site).kind = site.kind := by
  have same := congrArg Label.kind (twins.twin_label kept)
  exact same

theorem twin_text (kept : twins.Kept site) :
    (twins.twin site).text = site.text := by
  have same := congrArg Label.text (twins.twin_label kept)
  exact same

theorem twin_start (kept : twins.Kept site) :
    (twins.twin site).node.start = site.node.start := by
  have same := congrArg Label.start (twins.twin_label kept)
  exact same

theorem twin_named (kept : twins.Kept site) :
    (twins.twin site).node.named = site.node.named := by
  have same := congrArg Label.named (twins.twin_label kept)
  exact same

theorem kept_namedChild (kept : twins.Kept site) (listed : twins.Listed site)
    (below : child ∈ site.namedChildren) : twins.Kept child :=
  twins.kept_child kept listed (site.namedChildren_sublist.subset below)

theorem twin_namedChildren (kept : twins.Kept site)
    (listed : twins.Listed site) :
    Woven Site.IsComment (site.namedChildren.map twins.twin)
      (twins.twin site).namedChildren := by
  have alike : (site.children.map twins.twin).filter
      (fun child => child.node.named) =
        site.namedChildren.map twins.twin := by
    rw [List.filter_map, Site.namedChildren]
    congr 1
    apply List.filter_congr
    intro child below
    exact twins.twin_named (twins.kept_child kept listed below)
  rw [← alike]
  exact (twins.twin_children kept listed).filter _

/-- The named children of some kinds, comments not among them. -/
theorem twin_namedChildren_filter (kept : twins.Kept site)
    (listed : twins.Listed site) (test : String → Bool)
    (silent : test "comment" = false) :
    ((twins.twin site).namedChildren.filter fun child => test child.kind) =
      (site.namedChildren.filter fun child => test child.kind).map
        twins.twin := by
  have noComment : ∀ comment, Site.IsComment comment →
      test comment.kind = false := by
    intro comment isComment
    rw [isComment, silent]
  rw [(twins.twin_namedChildren kept listed).filter_eq noComment,
    List.filter_map]
  congr 1
  apply List.filter_congr
  intro child below
  rw [Function.comp_apply,
    twins.twin_kind (twins.kept_namedChild kept listed below)]

/-- What is collected from the named children, when comments have nothing to
offer, is collected from their counterparts. -/
theorem flatMap_namedChildren {β : Type} {collect twinCollect : Site → List β}
    (kept : twins.Kept site) (listed : twins.Listed site)
    (silent : ∀ comment, Site.IsComment comment → twinCollect comment = [])
    (same : ∀ child ∈ site.namedChildren,
      twinCollect (twins.twin child) = collect child) :
    (twins.twin site).namedChildren.flatMap twinCollect =
      site.namedChildren.flatMap collect := by
  rw [(twins.twin_namedChildren kept listed).flatMap_eq silent,
    List.flatMap_map]
  exact List.flatMap_congr same

/-! ## Owners -/

theorem isFunctionScope_of_extra (extra : twins.Extra site) :
    site.isFunctionScope = false := by
  rw [Site.isFunctionScope]
  rcases twins.extra_kind extra with kind | kind
  · rw [kind]
    decide
  · rw [kind]
    decide

theorem isScope_of_extra (extra : twins.Extra site) :
    site.isScope = false := by
  rw [Site.isScope, twins.isFunctionScope_of_extra extra]
  rcases twins.extra_kind extra with kind | kind
  · simp [kind, blockScopeKinds]
  · simp [kind, parenthesesKind, blockScopeKinds]

theorem twin_isFunctionScope (kept : twins.Kept site) :
    (twins.twin site).isFunctionScope = site.isFunctionScope := by
  rw [Site.isFunctionScope, Site.isFunctionScope, twins.twin_kind kept]

/-- The counterpart of the nearest scope above is the nearest scope above the
counterpart. -/
theorem twin_nearest {opens : Site → Bool} (kept : twins.Kept site)
    (same : ∀ {scope}, twins.Kept scope →
      opens (twins.twin scope) = opens scope)
    (silent : ∀ {extra}, twins.Extra extra → opens extra = false) :
    (((twins.twin site).above.find? opens).map Site.path).getD [] =
      twins.move (((site.above.find? opens).map Site.path).getD []) := by
  have found : site.above.find? (opens ∘ twins.twin) =
      site.above.find? opens := by
    apply List.find?_congr
    intro scope member
    exact same (twins.kept_above kept scope member)
  rw [(twins.twin_above kept).find?_eq fun _ extra => silent extra,
    List.find?_map, found]
  cases nearest : site.above.find? opens with
  | none =>
      exact twins.move_root.symm
  | some scope =>
      exact twins.twin_path (twins.kept_above kept scope
        (List.mem_of_find?_eq_some nearest))

theorem twin_hoistedOwner (kept : twins.Kept site) :
    (twins.twin site).hoistedOwner = twins.move site.hoistedOwner :=
  twins.twin_nearest kept twins.twin_isFunctionScope
    twins.isFunctionScope_of_extra

theorem twin_blockOwner (kept : twins.Kept site) :
    (twins.twin site).blockOwner = twins.move site.blockOwner :=
  twins.twin_nearest kept twins.twin_isScope twins.isScope_of_extra

/-! ## Patterns -/

def boundName (bound : BoundName) : BoundName :=
  { bound with site := twins.twin bound.site }

def binding (binding : Binding) : Binding :=
  { binding with site := twins.twin binding.site }

def declaration (declaration : Declaration) : Declaration :=
  ⟨twins.move declaration.owner, twins.binding declaration.binding⟩

end Counterparts

namespace Site

variable {site : Site}

theorem kind_ne_arguments_of_default
    (default : site.node.isDefaultPattern = true) :
    site.kind ≠ "arguments" := by
  simp only [Node.isDefaultPattern, Bool.or_eq_true, beq_iff_eq] at default
  rw [Site.kind]
  rcases default with kind | kind <;> simp [kind]

theorem kind_ne_arguments_of_typed
    (typed : site.node.isTypedParameter = true) :
    site.kind ≠ "arguments" := by
  simp only [Node.isTypedParameter, Bool.or_eq_true, beq_iff_eq] at typed
  rw [Site.kind]
  rcases typed with kind | kind <;> simp [kind]

theorem kind_not_guarded_of_group
    (group : site.node.isGroupPattern = true) :
    site.kind ∉ guardedKinds := by
  simp only [Node.isGroupPattern, Bool.or_eq_true, beq_iff_eq] at group
  rw [Site.kind]
  rcases group with kind | kind
  · rw [kind]
    decide
  · rw [kind]
    decide

theorem boundNames_of_comment (comment : site.IsComment) (defaulted : Bool) :
    site.boundNames defaulted = [] := by
  have nodeKind : site.node.kind = "comment" := comment
  rw [boundNames_eq]
  simp [Node.isPlainName, Node.isDefaultPattern, Node.isGroupPattern,
    Node.isTypedParameter, Site.kind, nodeKind]

end Site

namespace Counterparts

variable (twins : Counterparts) {site child : Site}

/-- The names that a kept pattern binds are kept. -/
theorem kept_of_binds {defaulted : Bool} {bound : BoundName}
    (binds : site.Binds defaulted bound) (kept : twins.Kept site) :
    twins.Kept bound.site := by
  induction binds with
  | plain _ =>
      exact kept
  | beforeDefault default found _ inductionHypothesis =>
      exact inductionHypothesis (twins.kept_child? kept
        (Site.kind_ne_arguments_of_default default) (by decide) found)
  | renamed kind found _ inductionHypothesis =>
      exact inductionHypothesis (twins.kept_child? kept
        (kind ▸ by decide) (by decide) found)
  | rest kind named _ inductionHypothesis =>
      have listed := twins.listed_of_kind kept (kind ▸ by decide)
      exact inductionHypothesis (twins.kept_namedChild kept listed named)
  | grouped group named _ inductionHypothesis =>
      have listed := twins.listed_of_kind kept
        (Site.kind_not_guarded_of_group group)
      exact inductionHypothesis (twins.kept_namedChild kept listed named)
  | typed typed found _ inductionHypothesis =>
      exact inductionHypothesis (twins.kept_child? kept
        (Site.kind_ne_arguments_of_typed typed) (by decide) found)

/-- A pattern and its counterpart bind the same names. -/
def BindsAlike (site : Site) : Prop :=
  ∀ defaulted,
    (twins.twin site).boundNames defaulted =
      (site.boundNames defaulted).map twins.boundName

theorem child?_boundNames_twin {role : String} {rule twinRule : Site → Bool}
    (kept : twins.Kept site) (kind : site.kind ≠ "arguments")
    (other : role ≠ "body")
    (alike : ∀ child ∈ site.children, twins.Kept child →
      twins.BindsAlike child)
    (same : ∀ {part}, twins.Kept part →
      twinRule (twins.twin part) = rule part) :
    (((twins.twin site).child? role).toList.flatMap fun part =>
        part.boundNames (twinRule part)) =
      ((site.child? role).toList.flatMap fun part =>
        part.boundNames (rule part)).map twins.boundName := by
  rw [twins.twin_child? kept kind other]
  cases found : site.child? role with
  | none =>
      rfl
  | some part =>
      have partKept := twins.kept_child? kept kind other found
      have below := List.mem_of_find?_eq_some found
      have names := alike part below partKept (rule part)
      simp only [Option.map_some, Option.toList_some, List.flatMap_cons,
        List.flatMap_nil, List.append_nil, same partKept, names]

theorem namedChildren_boundNames_twin (defaulted : Bool)
    (kept : twins.Kept site) (listed : twins.Listed site)
    (alike : ∀ child ∈ site.children, twins.Kept child →
      twins.BindsAlike child) :
    ((twins.twin site).namedChildren.flatMap fun part =>
        part.boundNames defaulted) =
      (site.namedChildren.flatMap fun part =>
        part.boundNames defaulted).map twins.boundName := by
  rw [List.map_flatMap]
  apply twins.flatMap_namedChildren kept listed
  · intro comment isComment
    exact Site.boundNames_of_comment isComment defaulted
  · intro part member
    exact alike part (site.namedChildren_sublist.subset member)
      (twins.kept_namedChild kept listed member) defaulted

/-- A kept pattern and its counterpart bind the same names. -/
theorem bindsAlike_of_kept (site : Site) (kept : twins.Kept site) :
    twins.BindsAlike site := by
  induction site using Site.inductionOnChildren with
  | step site inductionHypothesis =>
      have plain : ∀ {part : Site}, twins.Kept part →
          (twins.twin part).node.isPlainName = part.node.isPlainName := by
        intro part partKept
        have kind : (twins.twin part).node.kind = part.node.kind :=
          twins.twin_kind partKept
        rw [Node.isPlainName, Node.isPlainName, kind]
      have nodeKind : (twins.twin site).node.kind = site.node.kind :=
        twins.twin_kind kept
      have default : (twins.twin site).node.isDefaultPattern =
          site.node.isDefaultPattern := by
        rw [Node.isDefaultPattern, Node.isDefaultPattern, nodeKind]
      have group : (twins.twin site).node.isGroupPattern =
          site.node.isGroupPattern := by
        rw [Node.isGroupPattern, Node.isGroupPattern, nodeKind]
      have typed : (twins.twin site).node.isTypedParameter =
          site.node.isTypedParameter := by
        rw [Node.isTypedParameter, Node.isTypedParameter, nodeKind]
      intro defaulted
      -- Both sides take the same rule, which depends on labels only.
      rw [Site.boundNames_eq, Site.boundNames_eq, plain kept, default, group,
        typed, twins.twin_kind kept]
      refine map_ite_congr (fun _ => rfl) fun _ => ?_
      refine map_ite_congr (fun isDefault => ?_) fun _ => ?_
      · apply twins.child?_boundNames_twin kept
          (Site.kind_ne_arguments_of_default isDefault) (by decide)
          inductionHypothesis
        intro part partKept
        rw [plain partKept]
      refine map_ite_congr (fun kind => ?_) fun _ => ?_
      · apply twins.child?_boundNames_twin kept
          (beq_iff_eq.mp kind ▸ by decide) (by decide) inductionHypothesis
        intro part _
        rfl
      refine map_ite_congr (fun kind => ?_) fun _ => ?_
      · have listed := twins.listed_of_kind kept
          (beq_iff_eq.mp kind ▸ by decide)
        exact twins.namedChildren_boundNames_twin true kept listed
          inductionHypothesis
      refine map_ite_congr (fun isGroup => ?_) fun _ => ?_
      · have listed := twins.listed_of_kind kept
          (Site.kind_not_guarded_of_group isGroup)
        exact twins.namedChildren_boundNames_twin defaulted kept listed
          inductionHypothesis
      refine map_ite_congr (fun isTyped => ?_) fun _ => rfl
      have notArguments := Site.kind_ne_arguments_of_typed isTyped
      have valued : ((twins.twin site).node.child? "value").isSome =
          (site.node.child? "value").isSome := by
        rw [← Site.map_node_child?, ← Site.map_node_child?,
          twins.twin_child? kept notArguments (by decide), Option.isSome_map,
          Option.isSome_map, Option.isSome_map]
      rw [valued]
      apply twins.child?_boundNames_twin kept notArguments (by decide)
        inductionHypothesis
      intro part partKept
      rw [plain partKept]

/-! ## Declarations -/

theorem twin_ofName {name : Site} (kept : twins.Kept name)
    (owner : Path) (kind : BindingKind) :
    Declaration.ofName (twins.move owner) kind (twins.twin name) =
      twins.declaration (Declaration.ofName owner kind name) := by
  rw [Declaration.ofName, twins.twin_text kept]
  rfl

/-- The names of a kept pattern, declared one by one. -/
theorem twin_boundNames_map {pattern : Site}
    {declare twinDeclare : BoundName → Declaration}
    (kept : twins.Kept pattern)
    (same : ∀ {bound}, twins.Kept bound.site →
      twinDeclare (twins.boundName bound) =
        twins.declaration (declare bound)) :
    ((twins.twin pattern).boundNames false).map twinDeclare =
      ((pattern.boundNames false).map declare).map twins.declaration := by
  rw [twins.bindsAlike_of_kept pattern kept, List.map_map, List.map_map]
  apply List.map_congr_left
  intro bound listed
  exact same (twins.kept_of_binds (Site.mem_boundNames_iff.mp listed) kept)

/-- Declarations collected from the named children, of which comments make
none. -/
theorem twin_flatMap {declare twinDeclare : Site → List Declaration}
    (kept : twins.Kept site) (listed : twins.Listed site)
    (silent : ∀ comment, Site.IsComment comment → twinDeclare comment = [])
    (each : ∀ {part}, twins.Kept part →
      twinDeclare (twins.twin part) =
        (declare part).map twins.declaration) :
    (twins.twin site).namedChildren.flatMap twinDeclare =
      (site.namedChildren.flatMap declare).map twins.declaration := by
  rw [List.map_flatMap]
  apply twins.flatMap_namedChildren kept listed silent
  intro part member
  exact each (twins.kept_namedChild kept listed member)

theorem twin_ofDeclarator (kept : twins.Kept site) (owner : Path) :
    Declaration.ofDeclarator (twins.move owner) (twins.twin site) =
      (Declaration.ofDeclarator owner site).map twins.declaration := by
  rw [Declaration.ofDeclarator, Declaration.ofDeclarator, twins.twin_kind kept]
  refine map_ite_congr (fun isDeclarator => ?_) fun _ => rfl
  have kind : site.kind ≠ "arguments" :=
    beq_iff_eq.mp isDeclarator ▸ by decide
  rw [twins.twin_child? kept kind (by decide),
    twins.twin_child? kept kind (by decide)]
  cases nameAt : site.child? "name" with
  | none =>
      rfl
  | some pattern =>
      apply twins.twin_boundNames_map
        (twins.kept_child? kept kind (by decide) nameAt)
      intro bound boundKept
      simp only [boundName, declaration, binding, twins.twin_text boundKept,
        Option.isSome_map]

theorem twin_ofVariables (kept : twins.Kept site)
    (kind : site.kind ∉ Site.guardedKinds) (owner : Path) :
    Declaration.ofVariables (twins.move owner) (twins.twin site) =
      (Declaration.ofVariables owner site).map twins.declaration := by
  apply twins.twin_flatMap kept (twins.listed_of_kind kept kind)
  · intro comment isComment
    rw [Site.IsComment] at isComment
    simp [Declaration.ofDeclarator, isComment]
  · intro declarator declaratorKept
    exact twins.twin_ofDeclarator declaratorKept owner

theorem twin_ofLoop (kept : twins.Kept site)
    (kind : site.kind ≠ "arguments") :
    Declaration.ofLoop (twins.twin site) =
      (Declaration.ofLoop site).map twins.declaration := by
  rw [Declaration.ofLoop, Declaration.ofLoop,
    twins.twin_child? kept kind (by decide),
    twins.twin_child? kept kind (by decide), twins.twin_hoistedOwner kept,
    twins.twin_path kept]
  cases keywordAt : site.child? "kind" with
  | none =>
      rfl
  | some keyword =>
      cases patternAt : site.child? "left" with
      | none =>
          rfl
      | some pattern =>
          have keywordText := twins.twin_text
            (twins.kept_child? kept kind (by decide) keywordAt)
          simp only [Option.map_some, keywordText, ← apply_ite twins.move]
          apply twins.twin_boundNames_map
            (twins.kept_child? kept kind (by decide) patternAt)
          intro bound boundKept
          exact twins.twin_ofName boundKept _ _

theorem twin_ofNameChild (kept : twins.Kept site)
    (kind : site.kind ≠ "arguments") (owner : Path)
    (binding : BindingKind) :
    Declaration.ofNameChild (twins.move owner) binding (twins.twin site) =
      (Declaration.ofNameChild owner binding site).map
        twins.declaration := by
  rw [Declaration.ofNameChild, Declaration.ofNameChild,
    twins.twin_child? kept kind (by decide)]
  cases nameAt : site.child? "name" with
  | none =>
      rfl
  | some name =>
      have nameKept := twins.kept_child? kept kind (by decide) nameAt
      simp only [Option.map_some, Option.toList_some, List.map_cons,
        List.map_nil, twins.twin_ofName nameKept]

theorem twin_ofFunctionName (kept : twins.Kept site)
    (kind : site.kind ≠ "arguments") :
    Declaration.ofFunctionName (twins.twin site) =
      (Declaration.ofFunctionName site).map twins.declaration := by
  rw [Declaration.ofFunctionName, Declaration.ofFunctionName,
    twins.twin_child? kept kind (by decide), twins.twin_kind kept,
    twins.twin_blockOwner kept, twins.twin_path kept]
  cases nameAt : site.child? "name" with
  | none =>
      rfl
  | some name =>
      have nameKept := twins.kept_child? kept kind (by decide) nameAt
      simp only [Option.map_some, twins.twin_kind nameKept,
        twins.twin_ofName nameKept]
      refine map_ite_congr (fun _ => rfl) fun _ => ?_
      refine map_ite_congr (fun _ => rfl) fun _ => ?_
      exact map_ite_congr (fun _ => rfl) fun _ => rfl

theorem twin_ofParameters (kept : twins.Kept site)
    (kind : site.kind ≠ "arguments") :
    Declaration.ofParameters (twins.twin site) =
      (Declaration.ofParameters site).map twins.declaration := by
  have declared : ∀ {parameter : Site}, twins.Kept parameter →
      ((twins.twin parameter).boundNames false).map
          (Declaration.ofParameter (twins.move site.path)) =
        ((parameter.boundNames false).map
          (Declaration.ofParameter site.path)).map twins.declaration := by
    intro parameter parameterKept
    apply twins.twin_boundNames_map parameterKept
    intro bound boundKept
    simp only [Declaration.ofParameter, boundName, declaration, binding,
      twins.twin_text boundKept]
  rw [Declaration.ofParameters, Declaration.ofParameters,
    twins.twin_child? kept kind (by decide),
    twins.twin_child? kept kind (by decide), twins.twin_path kept]
  cases listAt : site.child? "parameters" with
  | some list =>
      have listKept := twins.kept_child? kept kind (by decide) listAt
      apply twins.twin_flatMap listKept (twins.listed_parameters kept listAt)
      · intro comment isComment
        rw [Site.boundNames_of_comment isComment, List.map_nil]
      · intro parameter parameterKept
        exact declared parameterKept
  | none =>
      cases bareAt : site.child? "parameter" with
      | none =>
          rfl
      | some parameter =>
          exact declared (twins.kept_child? kept kind (by decide) bareAt)

theorem twin_ofCatch (kept : twins.Kept site)
    (kind : site.kind ≠ "arguments") :
    Declaration.ofCatch (twins.twin site) =
      (Declaration.ofCatch site).map twins.declaration := by
  rw [Declaration.ofCatch, Declaration.ofCatch,
    twins.twin_child? kept kind (by decide), twins.twin_path kept]
  cases patternAt : site.child? "parameter" with
  | none =>
      rfl
  | some pattern =>
      apply twins.twin_boundNames_map
        (twins.kept_child? kept kind (by decide) patternAt)
      intro bound boundKept
      exact twins.twin_ofName boundKept _ _

theorem twin_importedName {name : Site} (kept : twins.Kept name) :
    Declaration.ofName [] .importDecl (twins.twin name) =
      twins.declaration (Declaration.ofName [] .importDecl name) := by
  have declared := twins.twin_ofName kept [] .importDecl
  rwa [twins.move_root] at declared

theorem twin_ofImportSpecifier (kept : twins.Kept site) :
    Declaration.ofImportSpecifier (twins.twin site) =
      (Declaration.ofImportSpecifier site).map twins.declaration := by
  rw [Declaration.ofImportSpecifier, Declaration.ofImportSpecifier,
    twins.twin_kind kept]
  refine map_ite_congr (fun isSpecifier => ?_) fun _ => rfl
  have kind : site.kind ≠ "arguments" :=
    beq_iff_eq.mp isSpecifier ▸ by decide
  rw [twins.twin_child? kept kind (by decide),
    twins.twin_child? kept kind (by decide), ← Option.map_or]
  cases found : (site.child? "alias").or (site.child? "name") with
  | none =>
      rfl
  | some name =>
      have nameKept : twins.Kept name := by
        rcases Option.or_eq_some_iff.mp found with aliased | ⟨_, plain⟩
        · exact twins.kept_child? kept kind (by decide) aliased
        · exact twins.kept_child? kept kind (by decide) plain
      simp only [Option.map_some, twins.twin_kind nameKept,
        twins.twin_importedName nameKept]
      exact map_ite_congr (fun _ => rfl) fun _ => rfl

theorem twin_ofImportPart (kept : twins.Kept site) :
    Declaration.ofImportPart (twins.twin site) =
      (Declaration.ofImportPart site).map twins.declaration := by
  rw [Declaration.ofImportPart, Declaration.ofImportPart,
    twins.twin_kind kept, twins.twin_importedName kept]
  refine map_ite_congr (fun _ => rfl) fun _ => ?_
  refine map_ite_congr (fun space => ?_) fun _ => ?_
  · have listed := twins.listed_of_kind kept
      (beq_iff_eq.mp space ▸ by decide)
    rw [twins.twin_namedChildren_filter kept listed
      (fun kind => kind == "identifier") (by decide), List.map_map,
      List.map_map]
    apply List.map_congr_left
    intro name member
    exact twins.twin_importedName (twins.kept_namedChild kept listed
      (List.mem_filter.mp member).1)
  refine map_ite_congr (fun members => ?_) fun _ => rfl
  have listed := twins.listed_of_kind kept
    (beq_iff_eq.mp members ▸ by decide)
  apply twins.twin_flatMap kept listed
  · intro comment isComment
    rw [Site.IsComment] at isComment
    simp [Declaration.ofImportSpecifier, isComment]
  · intro specifier specifierKept
    exact twins.twin_ofImportSpecifier specifierKept

theorem twin_ofImport (kept : twins.Kept site)
    (kind : site.kind ∉ Site.guardedKinds) :
    Declaration.ofImport (twins.twin site) =
      (Declaration.ofImport site).map twins.declaration := by
  have listed := twins.listed_of_kind kept kind
  rw [Declaration.ofImport, Declaration.ofImport,
    twins.twin_namedChildren_filter kept listed
      (fun kind =>
        kind == "import_clause" || kind == "import_require_clause")
      (by decide),
    List.flatMap_map, List.map_flatMap]
  apply List.flatMap_congr
  intro clause member
  obtain ⟨below, kinds⟩ := List.mem_filter.mp member
  have clauseKept := twins.kept_namedChild kept listed below
  have clauseKind : clause.kind ∉ Site.guardedKinds := by
    simp only [Bool.or_eq_true, beq_iff_eq] at kinds
    rcases kinds with kind | kind
    · rw [kind]
      decide
    · rw [kind]
      decide
  apply twins.twin_flatMap clauseKept
    (twins.listed_of_kind clauseKept clauseKind)
  · intro comment isComment
    rw [Site.IsComment] at isComment
    simp [Declaration.ofImportPart, isComment]
  · intro part partKept
    exact twins.twin_ofImportPart partKept

/-- A site that is kept and its counterpart make the same declarations. -/
theorem twin_declarations (kept : twins.Kept site) :
    (twins.twin site).declarations =
      site.declarations.map twins.declaration := by
  rw [Site.declarations, Site.declarations, twins.twin_named kept,
    twins.twin_kind kept, twins.twin_hoistedOwner kept,
    twins.twin_blockOwner kept, twins.twin_path kept]
  have notArguments : ∀ {kind : String}, (site.kind == kind) = true →
      kind ≠ "arguments" → site.kind ≠ "arguments" := by
    intro kind isKind other
    exact beq_iff_eq.mp isKind ▸ other
  have notGuarded : ∀ {kind : String}, (site.kind == kind) = true →
      kind ∉ Site.guardedKinds → site.kind ∉ Site.guardedKinds := by
    intro kind isKind other
    exact beq_iff_eq.mp isKind ▸ other
  have listedNotArguments : ∀ {kinds : List String},
      kinds.contains site.kind = true → "arguments" ∉ kinds →
        site.kind ≠ "arguments" := by
    intro kinds isListed other same
    rw [same, List.contains_iff_mem] at isListed
    exact other isListed
  -- One step for each kind of construct, in the order in which they are told
  -- apart.
  refine map_ite_congr (fun _ => rfl) fun _ => ?_
  refine map_ite_congr (fun kind =>
    twins.twin_ofVariables kept (notGuarded kind (by decide)) _) fun _ => ?_
  refine map_ite_congr (fun kind =>
    twins.twin_ofVariables kept (notGuarded kind (by decide)) _) fun _ => ?_
  refine map_ite_congr (fun kind =>
    twins.twin_ofLoop kept (notArguments kind (by decide))) fun _ => ?_
  refine map_ite_congr (fun kinds => ?_) fun _ => ?_
  · have kind := listedNotArguments (Bool.and_eq_true_iff.mp kinds).1
      (by decide)
    rw [twins.twin_ofFunctionName kept kind,
      twins.twin_ofParameters kept kind, List.map_append]
  refine map_ite_congr (fun kinds => twins.twin_ofNameChild kept
    (listedNotArguments kinds (by decide)) _ _) fun _ => ?_
  refine map_ite_congr (fun kind => twins.twin_ofNameChild kept
    (notArguments kind (by decide)) _ _) fun _ => ?_
  refine map_ite_congr (fun kind =>
    twins.twin_ofImport kept (notGuarded kind (by decide))) fun _ => ?_
  refine map_ite_congr (fun kind =>
    twins.twin_ofCatch kept (notArguments kind (by decide))) fun _ => ?_
  exact map_ite_congr (fun kind => twins.twin_ofNameChild kept
    (notArguments kind (by decide)) _ _) fun _ => rfl

end Counterparts

end CallAudit
