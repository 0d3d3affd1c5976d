import CallAudit.Proofs.Scope.Ownership

/-!
# The order of declarations

Inside one construct the own name of a function comes first and all other names
follow in document order.  Over a whole tree the construct that comes first in
document order goes first.

`Node.FirstDeclaration` says that a binding is the first one for its name in a
scope, and `Node.firstDeclaration_iff_find?` that searching the list of all
declarations finds it.
-/

namespace CallAudit

/-! ## Inside one construct -/

/-- A construct lists one binding before another. -/
def Binding.ListedBefore (left right : Binding) : Prop :=
  (left.kind = .functionDecl ∧ right.kind ≠ .functionDecl) ∨
    ((left.kind = .functionDecl ↔ right.kind = .functionDecl) ∧
      Path.Before left.site.path right.site.path)

theorem Binding.listedBefore_asymm {left right : Binding}
    (order : left.ListedBefore right) : ¬ right.ListedBefore left := by
  intro opposite
  rcases order with ⟨leftOwn, rightNot⟩ | ⟨same, before⟩
  · rcases opposite with ⟨rightOwn, _⟩ | ⟨same, _⟩
    · exact rightNot rightOwn
    · exact rightNot (same.mpr leftOwn)
  · rcases opposite with ⟨rightOwn, leftNot⟩ | ⟨_, after⟩
    · exact leftNot (same.mpr rightOwn)
    · exact Path.before_asymm before after

def Declaration.place (declaration : Declaration) : Site :=
  declaration.binding.site

namespace Site

theorem orderedBelow_children (site : Site) :
    OrderedBelow site.path site.children := by
  have listed : OrderedBelow site.path
      (site.children.flatMap fun child => [child]) := by
    apply orderedBelow_flatMap (List.Sublist.refl _)
    intro child _
    exact OrderedBelow.singleton (List.nil_append child.path).symm
  simpa using listed

/-- What is in order below a child is in order below its parent. -/
theorem orderedBelow_of_child? {site child : Site} {role : String}
    {sites : List Site} (found : site.child? role = some child)
    (listed : OrderedBelow child.path sites) :
    OrderedBelow site.path sites := by
  obtain ⟨index, pathShape, _⟩ :=
    eq_of_mem_children (List.mem_of_find?_eq_some found)
  rw [pathShape] at listed
  exact OrderedBelow.raise [index] listed

theorem orderedBelow_child? {site child : Site} {role : String}
    (found : site.child? role = some child) :
    OrderedBelow site.path [child] :=
  orderedBelow_of_child? found
    (OrderedBelow.singleton (List.nil_append child.path).symm)

end Site

namespace Declaration

theorem orderedBelow_ofVariables (owner : Path) (statement : Site) :
    OrderedBelow statement.path ((ofVariables owner statement).map place) := by
  rw [ofVariables, List.map_flatMap]
  apply Site.orderedBelow_flatMap statement.namedChildren_sublist
  intro declarator _
  by_cases kind : declarator.kind = "variable_declarator"
  · cases named : declarator.child? "name" with
    | none =>
        simpa [ofDeclarator, named] using OrderedBelow.nil declarator.path
    | some pattern =>
        rw [ofDeclarator_eq_map kind named, List.map_map]
        exact Site.orderedBelow_of_child? named
          (pattern.orderedBelow_boundNames false)
  · simpa [ofDeclarator, kind] using OrderedBelow.nil declarator.path

theorem orderedBelow_ofLoop (loop : Site) :
    OrderedBelow loop.path ((ofLoop loop).map place) := by
  rw [ofLoop]
  split
  · next keyword pattern _ patternAt =>
      rw [List.map_map]
      exact Site.orderedBelow_of_child? patternAt
        (pattern.orderedBelow_boundNames false)
  · exact OrderedBelow.nil loop.path

theorem orderedBelow_ofParameters (function : Site) :
    OrderedBelow function.path ((ofParameters function).map place) := by
  rw [ofParameters]
  split
  · next parameters listAt =>
      rw [List.map_flatMap]
      apply Site.orderedBelow_of_child? listAt
      apply Site.orderedBelow_flatMap parameters.namedChildren_sublist
      intro parameter _
      rw [List.map_map]
      exact parameter.orderedBelow_boundNames false
  · split
    · next parameter parameterAt =>
        rw [List.map_map]
        exact Site.orderedBelow_of_child? parameterAt
          (parameter.orderedBelow_boundNames false)
    · exact OrderedBelow.nil function.path

theorem orderedBelow_ofNameChild
    (owner : Path) (kind : BindingKind) (site : Site) :
    OrderedBelow site.path ((ofNameChild owner kind site).map place) := by
  cases found : site.child? "name" with
  | none =>
      simpa [ofNameChild, found] using OrderedBelow.nil site.path
  | some name =>
      simpa [ofNameChild, found, place, ofName] using
        Site.orderedBelow_child? found

theorem orderedBelow_ofImportSpecifier (specifier : Site) :
    OrderedBelow specifier.path
      ((ofImportSpecifier specifier).map place) := by
  rw [ofImportSpecifier]
  split
  · split
    · next name found =>
        split
        · rcases Option.or_eq_some_iff.mp found with aliased | ⟨_, plain⟩
          · exact Site.orderedBelow_child? aliased
          · exact Site.orderedBelow_child? plain
        · exact OrderedBelow.nil specifier.path
    · exact OrderedBelow.nil specifier.path
  · exact OrderedBelow.nil specifier.path

theorem orderedBelow_ofImportPart (part : Site) :
    OrderedBelow part.path ((ofImportPart part).map place) := by
  rw [ofImportPart]
  split
  · exact OrderedBelow.singleton (List.nil_append part.path).symm
  split
  · have names : OrderedBelow part.path
        (part.namedChildren.filter fun child => child.kind == "identifier") :=
      part.orderedBelow_children.sublist
        (List.filter_sublist.trans part.namedChildren_sublist)
    rw [List.map_map]
    simpa [Function.comp_def, place, ofName] using names
  split
  · rw [List.map_flatMap]
    apply Site.orderedBelow_flatMap part.namedChildren_sublist
    intro specifier _
    exact orderedBelow_ofImportSpecifier specifier
  · exact OrderedBelow.nil part.path

theorem orderedBelow_ofImport (statement : Site) :
    OrderedBelow statement.path ((ofImport statement).map place) := by
  rw [ofImport, List.map_flatMap]
  apply Site.orderedBelow_flatMap
    (List.filter_sublist.trans statement.namedChildren_sublist)
  intro clause _
  rw [List.map_flatMap]
  apply Site.orderedBelow_flatMap clause.namedChildren_sublist
  intro part _
  exact orderedBelow_ofImportPart part

theorem orderedBelow_ofCatch (handler : Site) :
    OrderedBelow handler.path ((ofCatch handler).map place) := by
  rw [ofCatch]
  split
  · next pattern patternAt =>
      rw [List.map_map]
      exact Site.orderedBelow_of_child? patternAt
        (pattern.orderedBelow_boundNames false)
  · exact OrderedBelow.nil handler.path

/-- Declarations whose places are in order and none of which is the own name
of a function are listed in order. -/
theorem pairwise_listedBefore {path : Path} {declarations : List Declaration}
    (listed : OrderedBelow path (declarations.map place))
    (noOwnName : ∀ declaration ∈ declarations,
      declaration.binding.kind ≠ .functionDecl) :
    declarations.Pairwise fun left right =>
      left.binding.ListedBefore right.binding := by
  have ordered := List.pairwise_map.mp listed.ordered
  refine ordered.imp_of_mem ?_
  intro left right leftMember rightMember before
  have leftNot := noOwnName left leftMember
  have rightNot := noOwnName right rightMember
  exact Or.inr ⟨by simp [leftNot, rightNot], before⟩

theorem pairwise_ofFunctionName (function : Site) :
    (ofFunctionName function).Pairwise fun left right =>
      left.binding.ListedBefore right.binding := by
  rw [ofFunctionName]
  split
  · exact List.Pairwise.nil
  split
  · exact List.Pairwise.nil
  split
  · exact List.pairwise_singleton _ _
  split
  · exact List.pairwise_singleton _ _
  · exact List.Pairwise.nil

end Declaration

namespace Site

theorem kind_ne_functionDecl_of_ofVariables
    {owner : Path} {statement : Site} :
    ∀ declaration ∈ Declaration.ofVariables owner statement,
      declaration.binding.kind ≠ .functionDecl := by
  intro declaration listed
  obtain ⟨_, _, _, _, _, rfl⟩ := Declaration.mem_ofVariables_iff.mp listed
  simp [variableOf]

theorem kind_ne_functionDecl_of_ofNameChild
    {owner : Path} {kind : BindingKind} {site : Site}
    (different : kind ≠ .functionDecl) :
    ∀ declaration ∈ Declaration.ofNameChild owner kind site,
      declaration.binding.kind ≠ .functionDecl := by
  intro declaration listed
  obtain ⟨_, _, rfl⟩ := Declaration.mem_ofNameChild_iff.mp listed
  exact different

theorem kind_eq_parameterDecl_of_ofParameters {function : Site} :
    ∀ declaration ∈ Declaration.ofParameters function,
      declaration.binding.kind = .parameterDecl := by
  intro declaration listed
  rcases Declaration.mem_ofParameters_iff.mp listed with
    ⟨_, _, _, _, _, _, rfl⟩ | ⟨_, _, _, _, _, rfl⟩
  · rfl
  · rfl

theorem pairwise_function (function : Site) :
    (Declaration.ofFunctionName function ++
      Declaration.ofParameters function).Pairwise fun left right =>
        left.binding.ListedBefore right.binding := by
  refine List.pairwise_append.mpr
    ⟨Declaration.pairwise_ofFunctionName function,
      Declaration.pairwise_listedBefore
        (Declaration.orderedBelow_ofParameters function) ?_, ?_⟩
  · intro declaration listed
    simp [kind_eq_parameterDecl_of_ofParameters declaration listed]
  · intro name nameListed parameter parameterListed
    have nameKind : name.binding.kind = .functionDecl := by
      obtain ⟨_, _, _, ⟨_, rfl⟩ | ⟨_, rfl⟩⟩ :=
        Declaration.mem_ofFunctionName_iff.mp nameListed
      · rfl
      · rfl
    have parameterKind :=
      kind_eq_parameterDecl_of_ofParameters parameter parameterListed
    exact Or.inl ⟨nameKind, by simp [parameterKind]⟩

/-- A construct lists its declarations in order. -/
theorem declarations_pairwise (site : Site) :
    site.declarations.Pairwise fun left right =>
      left.binding.ListedBefore right.binding := by
  have byKind := site.declaresByKind_declarations
  generalize site.declarations = declarations at byKind
  cases byKind with
  | silent =>
      exact List.Pairwise.nil
  | hoistedVariables _ _ =>
      exact Declaration.pairwise_listedBefore
        (Declaration.orderedBelow_ofVariables _ site)
        kind_ne_functionDecl_of_ofVariables
  | blockVariables _ _ =>
      exact Declaration.pairwise_listedBefore
        (Declaration.orderedBelow_ofVariables _ site)
        kind_ne_functionDecl_of_ofVariables
  | loop _ _ =>
      apply Declaration.pairwise_listedBefore
        (Declaration.orderedBelow_ofLoop site)
      intro declaration listed
      obtain ⟨_, _, _, _, _, _, rfl⟩ := Declaration.mem_ofLoop_iff.mp listed
      simp [namedBinding]
  | function _ _ =>
      exact pairwise_function site
  | classDeclaration _ _ =>
      exact Declaration.pairwise_listedBefore
        (Declaration.orderedBelow_ofNameChild _ _ site)
        (kind_ne_functionDecl_of_ofNameChild (by decide))
  | classExpression _ _ =>
      exact Declaration.pairwise_listedBefore
        (Declaration.orderedBelow_ofNameChild _ _ site)
        (kind_ne_functionDecl_of_ofNameChild (by decide))
  | imports _ _ =>
      apply Declaration.pairwise_listedBefore
        (Declaration.orderedBelow_ofImport site)
      intro declaration listed
      obtain ⟨_, _, partListed⟩ := Declaration.mem_ofImport_iff.mp listed
      obtain ⟨_, _, rfl⟩ := Declaration.mem_ofImportPart_iff.mp partListed
      simp [namedBinding]
  | handler _ _ =>
      apply Declaration.pairwise_listedBefore
        (Declaration.orderedBelow_ofCatch site)
      intro declaration listed
      obtain ⟨_, _, _, _, rfl⟩ := Declaration.mem_ofCatch_iff.mp listed
      simp [namedBinding]
  | enumeration _ _ =>
      exact Declaration.pairwise_listedBefore
        (Declaration.orderedBelow_ofNameChild _ _ site)
        (kind_ne_functionDecl_of_ofNameChild (by decide))

end Site

/-! ## Over a whole tree -/

/-- A construct makes its binding known before another construct makes known
a later one. -/
def Site.DeclaresBefore
    (construct : Site) (binding : Binding)
    (other : Site) (later : Binding) : Prop :=
  Path.Before construct.path other.path ∨
    (construct.path = other.path ∧ binding.ListedBefore later)

theorem Site.declaresBefore_asymm
    {construct other : Site} {binding later : Binding}
    (order : construct.DeclaresBefore binding other later) :
    ¬ other.DeclaresBefore later construct binding := by
  intro opposite
  rcases order with before | ⟨same, listed⟩
  · rcases opposite with after | ⟨same, _⟩
    · exact Path.before_asymm before after
    · rw [same] at before
      exact Path.before_irrefl _ before
  · rcases opposite with after | ⟨_, unlisted⟩
    · rw [same] at after
      exact Path.before_irrefl _ after
    · exact Binding.listedBefore_asymm listed unlisted

namespace Node

/-- The scope at a path owns some declaration of a name. -/
def DeclaredIn (tree : Node) (owner : Path) (name : String) : Prop :=
  ∃ construct ∈ tree.sites, ∃ binding,
    construct.Declares owner binding ∧ binding.name = name

/-- A binding is the first that the scope at a path owns for a name. -/
def FirstDeclaration
    (tree : Node) (owner : Path) (name : String) (binding : Binding) : Prop :=
  ∃ construct ∈ tree.sites,
    construct.Declares owner binding ∧ binding.name = name ∧
      ∀ other ∈ tree.sites, ∀ later,
        other.Declares owner later → later.name = name →
          (other = construct ∧ later = binding) ∨
            construct.DeclaresBefore binding other later

/-- The declarations of a tree, each with the construct that makes it. -/
def occurrences (tree : Node) : List (Site × Declaration) :=
  tree.sites.flatMap fun construct =>
    construct.declarations.map (Prod.mk construct)

theorem mem_occurrences_iff
    {tree : Node} {construct : Site} {declaration : Declaration} :
    (construct, declaration) ∈ tree.occurrences ↔
      construct ∈ tree.sites ∧
        construct.Declares declaration.owner declaration.binding := by
  rw [occurrences, List.mem_flatMap, ← Site.mem_declarations_iff]
  constructor
  · rintro ⟨site, member, listed⟩
    obtain ⟨found, foundListed, equality⟩ := List.mem_map.mp listed
    cases equality
    exact ⟨member, foundListed⟩
  · rintro ⟨member, listed⟩
    exact ⟨construct, member, List.mem_map.mpr ⟨declaration, listed, rfl⟩⟩

theorem map_snd_occurrences (tree : Node) :
    tree.occurrences.map Prod.snd = tree.declarations := by
  rw [occurrences, declarations, walk_eq_sites, List.map_flatMap]
  simp [Function.comp_def]

theorem occurrences_pairwise (tree : Node) :
    tree.occurrences.Pairwise fun left right =>
      left.1.DeclaresBefore left.2.binding right.1 right.2.binding := by
  refine List.pairwise_flatMap.mpr ⟨?_, ?_⟩
  · intro construct _
    refine List.pairwise_map.mpr (construct.declarations_pairwise.imp ?_)
    intro left right listed
    exact Or.inr ⟨rfl, listed⟩
  · refine tree.sites_pairwise.imp ?_
    intro left right before leftFound leftMember rightFound rightMember
    obtain ⟨_, _, rfl⟩ := List.mem_map.mp leftMember
    obtain ⟨_, _, rfl⟩ := List.mem_map.mp rightMember
    exact Or.inl before

/-- Is this a declaration of a name in the scope at a path? -/
def isAbout (owner : Path) (name : String) (declaration : Declaration) :
    Bool :=
  declaration.binding.name == name && declaration.owner == owner

theorem isAbout_iff
    {owner : Path} {name : String} {declaration : Declaration} :
    isAbout owner name declaration = true ↔
      declaration.binding.name = name ∧ declaration.owner = owner := by
  simp [isAbout]

theorem find?_declarations_eq (tree : Node) (owner : Path) (name : String) :
    tree.declarations.find? (isAbout owner name) =
      (tree.occurrences.find? fun occurrence =>
        isAbout owner name occurrence.2).map Prod.snd := by
  rw [← map_snd_occurrences, List.find?_map]
  rfl

/-- The first declaration of a name in a scope is the one that a search
through all declarations finds. -/
theorem firstDeclaration_iff_find?
    {tree : Node} {owner : Path} {name : String} {binding : Binding} :
    tree.FirstDeclaration owner name binding ↔
      (tree.declarations.find? (isAbout owner name)).map
        Declaration.binding = some binding := by
  rw [find?_declarations_eq, Option.map_map, Option.map_eq_some_iff]
  have search :=
    find?_eq_some_iff_least Site.declaresBefore_asymm
      tree.occurrences_pairwise
      fun occurrence => isAbout owner name occurrence.2
  constructor
  · rintro ⟨construct, member, declares, named, first⟩
    refine ⟨(construct, ⟨owner, binding⟩), (search _).mpr ⟨?_, ?_, ?_⟩, rfl⟩
    · exact mem_occurrences_iff.mpr ⟨member, declares⟩
    · exact isAbout_iff.mpr ⟨named, rfl⟩
    · rintro ⟨other, later⟩ otherMember about
      obtain ⟨otherSite, otherDeclares⟩ := mem_occurrences_iff.mp otherMember
      obtain ⟨otherNamed, ownerEq⟩ := isAbout_iff.mp about
      rw [ownerEq] at otherDeclares
      rcases first other otherSite later.binding otherDeclares otherNamed with
        ⟨rfl, bindingEq⟩ | before
      · left
        obtain ⟨laterOwner, laterBinding⟩ := later
        simp_all
      · exact Or.inr before
  · rintro ⟨⟨construct, declaration⟩, found, bindingEq⟩
    obtain ⟨member, about, first⟩ := (search _).mp found
    obtain ⟨site, declares⟩ := mem_occurrences_iff.mp member
    obtain ⟨named, ownerEq⟩ := isAbout_iff.mp about
    obtain rfl : declaration.binding = binding := bindingEq
    rw [ownerEq] at declares
    refine ⟨construct, site, declares, named, ?_⟩
    intro other otherSite later otherDeclares laterNamed
    have listed : (other, (⟨owner, later⟩ : Declaration)) ∈ tree.occurrences :=
      mem_occurrences_iff.mpr ⟨otherSite, otherDeclares⟩
    rcases first _ listed (isAbout_iff.mpr ⟨laterNamed, rfl⟩) with
      equality | before
    · left
      cases equality
      exact ⟨rfl, rfl⟩
    · exact Or.inr before

theorem declaredIn_iff
    {tree : Node} {owner : Path} {name : String} :
    tree.DeclaredIn owner name ↔
      ∃ declaration ∈ tree.declarations,
        isAbout owner name declaration = true := by
  simp only [← map_snd_occurrences, List.mem_map]
  constructor
  · rintro ⟨construct, member, binding, declares, named⟩
    exact ⟨⟨owner, binding⟩,
      ⟨(construct, ⟨owner, binding⟩),
        mem_occurrences_iff.mpr ⟨member, declares⟩, rfl⟩,
      isAbout_iff.mpr ⟨named, rfl⟩⟩
  · rintro ⟨declaration, ⟨⟨construct, _⟩, member, rfl⟩, about⟩
    obtain ⟨site, declares⟩ := mem_occurrences_iff.mp member
    obtain ⟨named, ownerEq⟩ := isAbout_iff.mp about
    rw [ownerEq] at declares
    exact ⟨construct, site, _, declares, named⟩

end Node

end CallAudit
