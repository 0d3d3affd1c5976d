import CallAudit.Proofs.Scope.Counterpart
import CallAudit.Proofs.Scope.Enclosure

/-!
# Twins of the sites that a change of body keeps

When the body of a function is exchanged for another one, every site that is
kept has a twin at the same path of the new tree.  The twins are counterparts
(`BodyChange.counterparts`), so they make the same declarations
(`BodyChange.twin_declarations`).
-/

namespace CallAudit

/-- A binding after a part of the tree was exchanged. -/
def Binding.replace (place : Path) (fresh : Node) (binding : Binding) :
    Binding :=
  { binding with site := binding.site.replace place fresh }

/-- A declaration after a part of the tree was exchanged. -/
def Declaration.replace (place : Path) (fresh : Node)
    (declaration : Declaration) : Declaration :=
  { declaration with binding := declaration.binding.replace place fresh }

namespace BodyChange

variable {tree : Node} {function body : Site} {fresh : Node}

/-- The site in the new tree that stands where a site of the old one stood. -/
def twin (_ : BodyChange tree function body fresh) (site : Site) : Site :=
  site.replace body.path fresh

variable (change : BodyChange tree function body fresh)

include change

variable {site child : Site}

/-! ## Labels -/

theorem twin_label (kept : change.Kept site) :
    (change.twin site).node.label = site.node.label :=
  Site.replace_label (change.path_ne_of_kept kept)

theorem twin_kind (kept : change.Kept site) :
    (change.twin site).kind = site.kind := by
  rw [Site.kind, Site.kind, Node.kind, Node.kind, change.twin_label kept]

theorem twin_text (kept : change.Kept site) :
    (change.twin site).text = site.text := by
  rw [Site.text, Site.text, Node.text, Node.text, change.twin_label kept]

/-- The new body plays the role of the old one, and every other child of a site
that is kept plays its own. -/
theorem twin_field (kept : change.Kept site) (below : child ∈ site.children) :
    (change.twin child).node.field = child.node.field := by
  rcases change.eq_body_or_kept kept below with rfl | childKept
  · rw [twin, Site.replace_node_of_path_eq rfl, change.role, change.freshRole]
  · rw [Node.field, Node.field, change.twin_label childKept]

/-! ## Children and ancestors -/

theorem twin_children (kept : change.Kept site) :
    (change.twin site).children = site.children.map change.twin :=
  Site.replace_children (change.path_ne_of_kept kept)

theorem twin_child? (kept : change.Kept site) (role : String) :
    (change.twin site).child? role = (site.child? role).map change.twin := by
  rw [Site.child?, change.twin_children kept, List.find?_map, Site.child?]
  congr 1
  apply List.find?_congr
  intro child below
  rw [Function.comp_apply, change.twin_field kept below]

theorem twin_above : (change.twin site).above = site.above.map change.twin :=
  site.replace_above

/-! ## Owners -/

theorem twin_isFunctionScope (kept : change.Kept site) :
    (change.twin site).isFunctionScope = site.isFunctionScope := by
  rw [Site.isFunctionScope, Site.isFunctionScope, change.twin_kind kept]

theorem twin_isScope (kept : change.Kept site) :
    (change.twin site).isScope = site.isScope := by
  apply Site.isScope_congr (change.twin_kind kept)
  rw [Site.parent?, Site.parent?, change.twin_above, List.head?_map]
  cases parentAt : site.above.head? with
  | none =>
      rfl
  | some parent =>
      have parentKept :=
        change.kept_of_mem_above kept (List.mem_of_head? parentAt)
      simp only [Option.map_some, Option.any_some, Site.claimsBlock,
        change.twin_isFunctionScope parentKept, change.twin_kind parentKept]

/-! ## Declarations -/

/-- The list of parameters of a kept construct is not the function itself. -/
theorem parameters_ne_function {parameters : Site} (kept : change.Kept site)
    (listAt : site.child? "parameters" = some parameters) :
    parameters ≠ function := by
  rintro rfl
  have below := List.mem_of_find?_eq_some listAt
  have hasRole := List.find?_some listAt
  refine change.notParameters site ?_ (beq_iff_eq.mp hasRole)
  rw [Site.parent?, Site.above_of_mem_children below, List.head?_cons]

/-- Twins are counterparts at the same paths, and nothing comes in between. -/
def counterparts : Counterparts where
  Kept := change.Kept
  Extra := fun _ => False
  Listed := fun site => site ≠ function
  twin := change.twin
  move := id
  move_root := rfl
  twin_path := fun _ => rfl
  twin_label := fun kept => congrArg Label.withoutField (change.twin_label kept)
  kept_above := fun kept _ member => change.kept_of_mem_above kept member
  twin_above := fun _ => by
    rw [change.twin_above]
    exact Woven.refl _
  twin_isScope := change.twin_isScope
  kept_child? := fun kept _ other found => change.kept_child? kept other found
  twin_child? := fun kept _ _ => change.twin_child? kept _
  listed_of_kind := fun _ kind =>
    change.ne_function_of_kind fun member =>
      kind (List.mem_cons_of_mem _ member)
  listed_parameters := change.parameters_ne_function
  kept_child := change.kept_child
  twin_children := fun kept _ => by
    rw [change.twin_children kept]
    exact Woven.refl _
  extra_kind := False.elim

/-- A site that is kept and its twin make the same declarations. -/
theorem twin_declarations (kept : change.Kept site) :
    (change.twin site).declarations =
      site.declarations.map (Declaration.replace body.path fresh) :=
  change.counterparts.twin_declarations kept

theorem ne_function_of_importClause
    (kinds : site.kind = "import_clause" ∨
      site.kind = "import_require_clause") : site ≠ function := by
  apply change.ne_function_of_kind
  rcases kinds with kind | kind
  · rw [kind]
    decide
  · rw [kind]
    decide

/-- The names that a kept statement declares are kept. -/
theorem kept_of_declarator {declarator pattern : Site} {bound : BoundName}
    (kept : change.Kept site) (different : site ≠ function)
    (has : site.HasDeclarator declarator pattern)
    (binds : pattern.Binds false bound) : change.Kept bound.site := by
  obtain ⟨member, _, patternAt⟩ := has
  have declaratorKept := change.kept_namedChild kept different member
  exact change.counterparts.kept_of_binds binds
    (change.kept_child? declaratorKept (by decide) patternAt)

/-- The parts of a kept import statement are kept, and so are their parts. -/
theorem kept_of_importPart {part : Site} (kept : change.Kept site)
    (kind : site.kind = "import_statement") (has : site.HasImportPart part) :
    change.Kept part := by
  obtain ⟨clause, below, kinds, member⟩ := has
  have different := change.ne_function_of_kind (by
    rw [kind]
    decide)
  exact change.kept_namedChild (change.kept_namedChild kept different below)
    (change.ne_function_of_importClause kinds) member

/-- A kept site writes the names that it introduces at kept sites. -/
theorem kept_of_introduces {ownership : Ownership} {binding : Binding}
    (kept : change.Kept site) (introduced : site.Introduces ownership binding) :
    change.Kept binding.site := by
  have different : ∀ {other : Site} {kind : String}, other.kind = kind →
      kind ∉ functionScopeKinds → other ≠ function := by
    intro other kind isKind notFunction
    exact change.ne_function_of_kind (isKind ▸ notFunction)
  have child : ∀ {parent name : Site} {role : String}, change.Kept parent →
      parent.child? role = some name → role ≠ "body" → change.Kept name :=
    fun parentKept found other => change.kept_child? parentKept other found
  cases introduced with
  | hoistedVariable kind has binds =>
      exact change.kept_of_declarator kept (different kind (by decide)) has
        binds
  | blockVariable kind has binds =>
      exact change.kept_of_declarator kept (different kind (by decide)) has
        binds
  | hoistedLoopVariable _ _ _ patternAt binds =>
      exact change.counterparts.kept_of_binds binds (child kept patternAt (by decide))
  | loopVariable _ _ _ patternAt binds =>
      exact change.counterparts.kept_of_binds binds (child kept patternAt (by decide))
  | functionDeclaration _ nameAt _ =>
      exact child kept nameAt (by decide)
  | functionExpression _ nameAt _ =>
      exact child kept nameAt (by decide)
  | parameter _ listAt member binds =>
      exact change.counterparts.kept_of_binds binds
        (change.kept_namedChild (child kept listAt (by decide))
          (change.parameters_ne_function kept listAt) member)
  | bareParameter _ _ parameterAt binds =>
      exact change.counterparts.kept_of_binds binds (child kept parameterAt (by decide))
  | classDeclaration _ nameAt =>
      exact child kept nameAt (by decide)
  | classExpression _ nameAt =>
      exact child kept nameAt (by decide)
  | importedDefault kind has _ =>
      exact change.kept_of_importPart kept kind has
  | importedNamespace kind has space member _ =>
      exact change.kept_namedChild (change.kept_of_importPart kept kind has)
        (different space (by decide)) member
  | importedMember kind has members member imports =>
      have specifierKept := change.kept_namedChild
        (change.kept_of_importPart kept kind has)
        (different members (by decide)) member
      obtain ⟨_, _, aliased | ⟨_, plain⟩⟩ := imports
      · exact child specifierKept aliased (by decide)
      · exact child specifierKept plain (by decide)
  | caughtName _ patternAt binds =>
      exact change.counterparts.kept_of_binds binds (child kept patternAt (by decide))
  | enumeration _ nameAt =>
      exact child kept nameAt (by decide)

end BodyChange

end CallAudit
