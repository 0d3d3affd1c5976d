import CallAudit.Proofs.Scope.Pattern
import CallAudit.Scope.Declaration

/-!
# Rules of ownership

Which names a construct introduces, and which scope each of them belongs to,
as a list of rules.

* `Site.Introduces` has one rule for every way of introducing a name.
* `Ownership` separates the four places where a name can belong: the nearest
  function-like construct, the nearest scope, the construct itself, or the
  whole tree.
* `Site.Declares` puts the two together, and `Site.mem_declarations_iff` says
  that the declarations computed for a site are those of the rules.
-/

namespace CallAudit

/-! ## Owners -/

/-- A path leads to the nearest proper ancestor that opens a scope, or to the
root when no proper ancestor does. -/
def NearestAbove (opens : Site → Bool) (site : Site) (owner : Path) : Prop :=
  (∃ nearer scope further,
    site.above = nearer ++ scope :: further ∧
      (∀ other ∈ nearer, opens other = false) ∧
      opens scope = true ∧ owner = scope.path) ∨
  ((∀ other ∈ site.above, opens other = false) ∧ owner = [])

theorem nearestAbove_iff
    {opens : Site → Bool} {site : Site} {owner : Path} :
    NearestAbove opens site owner ↔
      owner = ((site.above.find? opens).map Site.path).getD [] := by
  constructor
  · rintro (⟨nearer, scope, further, shape, closed, opened, rfl⟩ |
      ⟨closed, rfl⟩)
    · have found : site.above.find? opens = some scope := by
        rw [List.find?_eq_some_iff_append]
        refine ⟨opened, nearer, further, shape, ?_⟩
        intro other member
        simp [closed other member]
      rw [found]
      rfl
    · have missing : site.above.find? opens = none := by
        rw [List.find?_eq_none]
        intro other member
        simp [closed other member]
      rw [missing]
      rfl
  · intro equality
    cases found : site.above.find? opens with
    | none =>
        right
        rw [found] at equality
        refine ⟨?_, equality⟩
        intro other member
        simpa using List.find?_eq_none.mp found other member
    | some scope =>
        left
        rw [found] at equality
        obtain ⟨opened, nearer, further, shape, closed⟩ :=
          List.find?_eq_some_iff_append.mp found
        refine ⟨nearer, scope, further, shape, ?_, opened, equality⟩
        intro other member
        simpa using closed other member

/-- Where an introduced name belongs. -/
inductive Ownership where
  /-- The nearest function-like construct around, or the whole tree. -/
  | hoisted
  /-- The nearest scope around, or the whole tree. -/
  | enclosing
  /-- The construct that introduces the name. -/
  | itself
  /-- The whole tree. -/
  | whole
  deriving DecidableEq, Repr

/-- The scope that owns the names of a construct. -/
def Ownership.Owner : Ownership → Site → Path → Prop
  | .hoisted, construct, owner =>
      NearestAbove Site.isFunctionScope construct owner
  | .enclosing, construct, owner => NearestAbove Site.isScope construct owner
  | .itself, construct, owner => owner = construct.path
  | .whole, _, owner => owner = []

theorem Ownership.owner_hoisted_iff {construct : Site} {owner : Path} :
    Ownership.hoisted.Owner construct owner ↔
      owner = construct.hoistedOwner :=
  nearestAbove_iff

theorem Ownership.owner_enclosing_iff {construct : Site} {owner : Path} :
    Ownership.enclosing.Owner construct owner ↔
      owner = construct.blockOwner :=
  nearestAbove_iff

/-! ## Rules -/

namespace Site

/-- Function-like constructs have parameters; the program has none. -/
def IsFunctionLike (site : Site) : Prop :=
  site.kind ∈ functionScopeKinds ∧ site.kind ≠ "program"

/-- A declarator among the parts of a statement, with its pattern. -/
def HasDeclarator (statement declarator pattern : Site) : Prop :=
  declarator ∈ statement.namedChildren ∧
    declarator.kind = "variable_declarator" ∧
    declarator.child? "name" = some pattern

def HasImportPart (statement part : Site) : Prop :=
  ∃ clause ∈ statement.namedChildren,
    (clause.kind = "import_clause" ∨ clause.kind = "import_require_clause") ∧
      part ∈ clause.namedChildren

/-- The name that a specifier of an import makes known: the one behind `as`
where there is one. -/
def ImportsAs (specifier name : Site) : Prop :=
  specifier.kind = "import_specifier" ∧ name.kind = "identifier" ∧
    (specifier.child? "alias" = some name ∨
      (specifier.child? "alias" = none ∧
        specifier.child? "name" = some name))

def variableOf (declarator : Site) (bound : BoundName) : Binding :=
  { name := bound.site.text, kind := .variableDecl,
    hasInitializer := (declarator.child? "value").isSome, site := bound.site }

def parameterOf (bound : BoundName) : Binding :=
  { name := bound.site.text, kind := .parameterDecl,
    hasDefault := bound.defaulted, site := bound.site }

def namedBinding (kind : BindingKind) (name : Site) : Binding :=
  { name := name.text, kind := kind, site := name }

/-- The names that a construct introduces, and where each belongs. -/
inductive Introduces (construct : Site) : Ownership → Binding → Prop
  | hoistedVariable {declarator pattern : Site} {bound : BoundName} :
      construct.kind = "variable_declaration" →
      HasDeclarator construct declarator pattern →
      pattern.Binds false bound →
      Introduces construct .hoisted (variableOf declarator bound)
  | blockVariable {declarator pattern : Site} {bound : BoundName} :
      construct.kind = "lexical_declaration" →
      HasDeclarator construct declarator pattern →
      pattern.Binds false bound →
      Introduces construct .enclosing (variableOf declarator bound)
  | hoistedLoopVariable {keyword pattern : Site} {bound : BoundName} :
      construct.kind = "for_in_statement" →
      construct.child? "kind" = some keyword →
      keyword.text = "var" →
      construct.child? "left" = some pattern →
      pattern.Binds false bound →
      Introduces construct .hoisted (namedBinding .variableDecl bound.site)
  | loopVariable {keyword pattern : Site} {bound : BoundName} :
      construct.kind = "for_in_statement" →
      construct.child? "kind" = some keyword →
      keyword.text ≠ "var" →
      construct.child? "left" = some pattern →
      pattern.Binds false bound →
      Introduces construct .itself (namedBinding .variableDecl bound.site)
  | functionDeclaration {name : Site} :
      construct.kind ∈ functionDeclarationKinds →
      construct.child? "name" = some name →
      name.kind = "identifier" →
      Introduces construct .enclosing (namedBinding .functionDecl name)
  | functionExpression {name : Site} :
      construct.kind ∈ functionExpressionKinds →
      construct.child? "name" = some name →
      name.kind = "identifier" →
      Introduces construct .itself (namedBinding .functionDecl name)
  | parameter {parameters parameter : Site} {bound : BoundName} :
      construct.IsFunctionLike →
      construct.child? "parameters" = some parameters →
      parameter ∈ parameters.namedChildren →
      parameter.Binds false bound →
      Introduces construct .itself (parameterOf bound)
  | bareParameter {parameter : Site} {bound : BoundName} :
      construct.IsFunctionLike →
      construct.child? "parameters" = none →
      construct.child? "parameter" = some parameter →
      parameter.Binds false bound →
      Introduces construct .itself (parameterOf bound)
  | classDeclaration {name : Site} :
      construct.kind ∈ classDeclarationKinds →
      construct.child? "name" = some name →
      Introduces construct .enclosing (namedBinding .classDecl name)
  | classExpression {name : Site} :
      construct.kind = "class" →
      construct.child? "name" = some name →
      Introduces construct .itself (namedBinding .classDecl name)
  | importedDefault {name : Site} :
      construct.kind = "import_statement" →
      HasImportPart construct name →
      name.kind = "identifier" →
      Introduces construct .whole (namedBinding .importDecl name)
  | importedNamespace {part name : Site} :
      construct.kind = "import_statement" →
      HasImportPart construct part →
      part.kind = "namespace_import" →
      name ∈ part.namedChildren →
      name.kind = "identifier" →
      Introduces construct .whole (namedBinding .importDecl name)
  | importedMember {part specifier name : Site} :
      construct.kind = "import_statement" →
      HasImportPart construct part →
      part.kind = "named_imports" →
      specifier ∈ part.namedChildren →
      ImportsAs specifier name →
      Introduces construct .whole (namedBinding .importDecl name)
  | caughtName {pattern : Site} {bound : BoundName} :
      construct.kind = "catch_clause" →
      construct.child? "parameter" = some pattern →
      pattern.Binds false bound →
      Introduces construct .itself (namedBinding .catchDecl bound.site)
  | enumeration {name : Site} :
      construct.kind = "enum_declaration" →
      construct.child? "name" = some name →
      Introduces construct .enclosing (namedBinding .otherDecl name)

/-- A construct declares a binding in the scope at a path. -/
def Declares (construct : Site) (owner : Path) (binding : Binding) : Prop :=
  construct.node.named = true ∧
    ∃ ownership, construct.Introduces ownership binding ∧
      ownership.Owner construct owner

end Site

/-! ## The declarations of each construct -/

namespace Declaration

theorem ofName_eq (owner : Path) (kind : BindingKind) (name : Site) :
    ofName owner kind name = ⟨owner, Site.namedBinding kind name⟩ :=
  rfl

theorem ofParameter_eq (owner : Path) (bound : BoundName) :
    ofParameter owner bound = ⟨owner, Site.parameterOf bound⟩ :=
  rfl

theorem ofDeclarator_eq_map {owner : Path} {declarator pattern : Site}
    (kind : declarator.kind = "variable_declarator")
    (named : declarator.child? "name" = some pattern) :
    ofDeclarator owner declarator =
      (pattern.boundNames false).map fun bound =>
        ⟨owner, Site.variableOf declarator bound⟩ := by
  simp [ofDeclarator, kind, named, Site.variableOf]

theorem mem_ofVariables_iff
    {owner : Path} {statement : Site} {declaration : Declaration} :
    declaration ∈ ofVariables owner statement ↔
      ∃ declarator pattern bound,
        statement.HasDeclarator declarator pattern ∧
          pattern.Binds false bound ∧
          ⟨owner, Site.variableOf declarator bound⟩ = declaration := by
  rw [ofVariables, List.mem_flatMap]
  constructor
  · rintro ⟨declarator, member, listed⟩
    by_cases kind : declarator.kind = "variable_declarator"
    · cases named : declarator.child? "name" with
      | none =>
          simp [ofDeclarator, named] at listed
      | some pattern =>
          rw [ofDeclarator_eq_map kind named, List.mem_map] at listed
          obtain ⟨bound, boundMember, equality⟩ := listed
          exact ⟨declarator, pattern, bound, ⟨member, kind, named⟩,
            Site.mem_boundNames_iff.mp boundMember, equality⟩
    · simp [ofDeclarator, kind] at listed
  · rintro ⟨declarator, pattern, bound, ⟨member, kind, named⟩, binds, equality⟩
    refine ⟨declarator, member, ?_⟩
    rw [ofDeclarator_eq_map kind named, List.mem_map]
    exact ⟨bound, Site.mem_boundNames_iff.mpr binds, equality⟩

theorem mem_ofLoop_iff {loop : Site} {declaration : Declaration} :
    declaration ∈ ofLoop loop ↔
      ∃ keyword pattern bound,
        loop.child? "kind" = some keyword ∧
          loop.child? "left" = some pattern ∧
          pattern.Binds false bound ∧
          ⟨if keyword.text == "var" then loop.hoistedOwner else loop.path,
            Site.namedBinding .variableDecl bound.site⟩ = declaration := by
  cases keyword : loop.child? "kind" with
  | none =>
      simp [ofLoop, keyword]
  | some keyword =>
      cases left : loop.child? "left" with
      | none =>
          simp [ofLoop, *]
      | some pattern =>
          simp [ofLoop, *, ofName_eq, Site.mem_boundNames_iff]

theorem mem_ofNameChild_iff
    {owner : Path} {kind : BindingKind} {site : Site}
    {declaration : Declaration} :
    declaration ∈ ofNameChild owner kind site ↔
      ∃ name, site.child? "name" = some name ∧
        ⟨owner, Site.namedBinding kind name⟩ = declaration := by
  simp only [ofNameChild, Option.mem_toList, Option.map_eq_some_iff, ofName_eq]

theorem mem_ofFunctionName_iff {function : Site} {declaration : Declaration} :
    declaration ∈ ofFunctionName function ↔
      ∃ name, function.child? "name" = some name ∧ name.kind = "identifier" ∧
        ((function.kind ∈ functionDeclarationKinds ∧
            ⟨function.blockOwner, Site.namedBinding .functionDecl name⟩ =
              declaration) ∨
          (function.kind ∈ functionExpressionKinds ∧
            ⟨function.path, Site.namedBinding .functionDecl name⟩ =
              declaration)) := by
  have disjoint : function.kind ∈ functionDeclarationKinds →
      function.kind ∉ functionExpressionKinds := by
    simp only [functionDeclarationKinds, functionExpressionKinds,
      List.mem_cons, List.not_mem_nil, or_false]
    rintro (kind | kind) <;> simp [kind]
  cases found : function.child? "name" with
  | none =>
      simp [ofFunctionName, found]
  | some name =>
      by_cases isName : name.kind = "identifier"
      · by_cases declared : function.kind ∈ functionDeclarationKinds
        · simp [ofFunctionName, found, isName, declared, disjoint declared,
            ofName_eq, eq_comm]
        · by_cases expressed : function.kind ∈ functionExpressionKinds
          · simp [ofFunctionName, found, isName, declared, expressed,
              ofName_eq, eq_comm]
          · simp [ofFunctionName, found, isName, declared, expressed]
      · simp [ofFunctionName, found, isName]

theorem mem_ofParameters_iff {function : Site} {declaration : Declaration} :
    declaration ∈ ofParameters function ↔
      (∃ parameters parameter bound,
        function.child? "parameters" = some parameters ∧
          parameter ∈ parameters.namedChildren ∧
          parameter.Binds false bound ∧
          ⟨function.path, Site.parameterOf bound⟩ = declaration) ∨
      (∃ parameter bound,
        function.child? "parameters" = none ∧
          function.child? "parameter" = some parameter ∧
          parameter.Binds false bound ∧
          ⟨function.path, Site.parameterOf bound⟩ = declaration) := by
  cases list : function.child? "parameters" with
  | some parameters =>
      simp [ofParameters, list, ofParameter_eq, Site.mem_boundNames_iff]
  | none =>
      cases bare : function.child? "parameter" with
      | none =>
          simp [ofParameters, *]
      | some parameter =>
          simp [ofParameters, *, ofParameter_eq, Site.mem_boundNames_iff]

theorem mem_ofCatch_iff {handler : Site} {declaration : Declaration} :
    declaration ∈ ofCatch handler ↔
      ∃ pattern bound, handler.child? "parameter" = some pattern ∧
        pattern.Binds false bound ∧
        ⟨handler.path, Site.namedBinding .catchDecl bound.site⟩ =
          declaration := by
  cases found : handler.child? "parameter" with
  | none =>
      simp [ofCatch, found]
  | some pattern =>
      simp [ofCatch, found, ofName_eq, Site.mem_boundNames_iff]

theorem mem_ofImportSpecifier_iff
    {specifier : Site} {declaration : Declaration} :
    declaration ∈ ofImportSpecifier specifier ↔
      ∃ name, specifier.ImportsAs name ∧
        ⟨[], Site.namedBinding .importDecl name⟩ = declaration := by
  by_cases kind : specifier.kind = "import_specifier"
  · cases found : (specifier.child? "alias").or (specifier.child? "name") with
    | none =>
        have missing := Option.or_eq_none_iff.mp found
        simp [ofImportSpecifier, kind, missing, Site.ImportsAs]
    | some name =>
        have shown : ∀ other, specifier.ImportsAs other ↔
            other.kind = "identifier" ∧ other = name := by
          intro other
          rw [Option.or_eq_some_iff] at found
          rcases found with aliased | ⟨noAlias, plain⟩
          · simp [Site.ImportsAs, kind, aliased, eq_comm]
          · simp [Site.ImportsAs, kind, noAlias, plain, eq_comm]
        by_cases isName : name.kind = "identifier"
        · have listed : ofImportSpecifier specifier =
              [⟨[], Site.namedBinding .importDecl name⟩] := by
            simp [ofImportSpecifier, kind, found, isName, ofName_eq]
          rw [listed, List.mem_singleton]
          constructor
          · rintro rfl
            exact ⟨name, (shown name).mpr ⟨isName, rfl⟩, rfl⟩
          · rintro ⟨other, imports, rfl⟩
            obtain ⟨_, rfl⟩ := (shown other).mp imports
            rfl
        · have listed : ofImportSpecifier specifier = [] := by
            simp [ofImportSpecifier, kind, found, isName]
          rw [listed]
          constructor
          · intro impossible
            simp at impossible
          · rintro ⟨other, imports, _⟩
            obtain ⟨otherKind, rfl⟩ := (shown other).mp imports
            exact absurd otherKind isName
  · simp [ofImportSpecifier, kind, Site.ImportsAs]

theorem mem_ofImportPart_iff {part : Site} {declaration : Declaration} :
    declaration ∈ ofImportPart part ↔
      ∃ name,
        ((part.kind = "identifier" ∧ name = part) ∨
          (part.kind = "namespace_import" ∧ name ∈ part.namedChildren ∧
            name.kind = "identifier") ∨
          (part.kind = "named_imports" ∧
            ∃ specifier ∈ part.namedChildren, specifier.ImportsAs name)) ∧
        ⟨[], Site.namedBinding .importDecl name⟩ = declaration := by
  by_cases plain : part.kind = "identifier"
  · simp [ofImportPart, plain, ofName_eq, eq_comm]
  by_cases space : part.kind = "namespace_import"
  · simp [ofImportPart, space, ofName_eq]
  by_cases members : part.kind = "named_imports"
  · have listed : ofImportPart part =
        part.namedChildren.flatMap ofImportSpecifier := by
      simp [ofImportPart, members]
    simp only [listed, List.mem_flatMap, mem_ofImportSpecifier_iff]
    constructor
    · rintro ⟨specifier, member, name, imports, equality⟩
      exact ⟨name, Or.inr (Or.inr ⟨members, specifier, member, imports⟩),
        equality⟩
    · rintro ⟨name, ⟨kind, _⟩ | ⟨kind, _⟩ | ⟨_, specifier, member, imports⟩,
        equality⟩
      · exact absurd kind plain
      · exact absurd kind space
      · exact ⟨specifier, member, name, imports, equality⟩
  · simp [ofImportPart, plain, space, members]

theorem mem_ofImport_iff {statement : Site} {declaration : Declaration} :
    declaration ∈ ofImport statement ↔
      ∃ part, statement.HasImportPart part ∧
        declaration ∈ ofImportPart part := by
  simp only [ofImport, List.mem_flatMap, List.mem_filter, Bool.or_eq_true,
    beq_iff_eq, Site.HasImportPart]
  constructor
  · rintro ⟨clause, ⟨member, kind⟩, part, partMember, listed⟩
    exact ⟨part, ⟨clause, member, kind, partMember⟩, listed⟩
  · rintro ⟨part, ⟨clause, member, kind, partMember⟩, listed⟩
    exact ⟨clause, ⟨member, kind⟩, part, partMember, listed⟩

end Declaration

/-! ## Rules and declarations agree -/

namespace Site

theorem isFunctionLike_of_mem_functionDeclarationKinds {site : Site}
    (declared : site.kind ∈ functionDeclarationKinds) :
    site.IsFunctionLike := by
  simp only [functionDeclarationKinds, List.mem_cons, List.not_mem_nil,
    or_false] at declared
  rcases declared with kind | kind <;>
    simp [IsFunctionLike, functionScopeKinds, kind]

theorem isFunctionLike_of_mem_functionExpressionKinds {site : Site}
    (expressed : site.kind ∈ functionExpressionKinds) :
    site.IsFunctionLike := by
  simp only [functionExpressionKinds, List.mem_cons, List.not_mem_nil,
    or_false] at expressed
  rcases expressed with kind | kind | kind <;>
    simp [IsFunctionLike, functionScopeKinds, kind]

theorem declarations_of_isFunctionLike {site : Site}
    (named : site.node.named = true) (like : site.IsFunctionLike) :
    site.declarations =
      Declaration.ofFunctionName site ++ Declaration.ofParameters site := by
  obtain ⟨kinds, notProgram⟩ := like
  have different : site.kind ≠ "variable_declaration" ∧
      site.kind ≠ "lexical_declaration" ∧
      site.kind ≠ "for_in_statement" := by
    simp only [functionScopeKinds, List.mem_cons, List.not_mem_nil,
      or_false] at kinds
    rcases kinds with kind | kind | kind | kind | kind | kind | kind | kind <;>
      simp [kind]
  simp [declarations, named, different, kinds, notProgram]

theorem declarations_of_classDeclaration {site : Site}
    (named : site.node.named = true)
    (declared : site.kind ∈ classDeclarationKinds) :
    site.declarations =
      Declaration.ofNameChild site.blockOwner .classDecl site := by
  simp only [classDeclarationKinds, List.mem_cons, List.not_mem_nil,
    or_false] at declared
  rcases declared with kind | kind <;>
    simp [declarations, named, kind, functionScopeKinds, classDeclarationKinds]

/-- The declarations of a construct, by its kind. -/
inductive DeclaresByKind (site : Site) : List Declaration → Prop
  | silent : DeclaresByKind site []
  | hoistedVariables :
      site.node.named = true → site.kind = "variable_declaration" →
      DeclaresByKind site (Declaration.ofVariables site.hoistedOwner site)
  | blockVariables :
      site.node.named = true → site.kind = "lexical_declaration" →
      DeclaresByKind site (Declaration.ofVariables site.blockOwner site)
  | loop :
      site.node.named = true → site.kind = "for_in_statement" →
      DeclaresByKind site (Declaration.ofLoop site)
  | function :
      site.node.named = true → site.IsFunctionLike →
      DeclaresByKind site
        (Declaration.ofFunctionName site ++ Declaration.ofParameters site)
  | classDeclaration :
      site.node.named = true → site.kind ∈ classDeclarationKinds →
      DeclaresByKind site
        (Declaration.ofNameChild site.blockOwner .classDecl site)
  | classExpression :
      site.node.named = true → site.kind = "class" →
      DeclaresByKind site (Declaration.ofNameChild site.path .classDecl site)
  | imports :
      site.node.named = true → site.kind = "import_statement" →
      DeclaresByKind site (Declaration.ofImport site)
  | handler :
      site.node.named = true → site.kind = "catch_clause" →
      DeclaresByKind site (Declaration.ofCatch site)
  | enumeration :
      site.node.named = true → site.kind = "enum_declaration" →
      DeclaresByKind site
        (Declaration.ofNameChild site.blockOwner .otherDecl site)

theorem declaresByKind_declarations (site : Site) :
    DeclaresByKind site site.declarations := by
  cases named : site.node.named with
  | false =>
      simpa [declarations, named] using DeclaresByKind.silent
  | true =>
      rw [declarations, named, Bool.not_true, if_neg Bool.false_ne_true]
      simp only [beq_iff_eq]
      split
      · next kind => exact .hoistedVariables named kind
      split
      · next kind => exact .blockVariables named kind
      split
      · next kind => exact .loop named kind
      split
      · next like =>
          exact .function named (by simpa [IsFunctionLike] using like)
      split
      · next declared =>
          exact .classDeclaration named (List.contains_iff_mem.mp declared)
      split
      · next kind => exact .classExpression named kind
      split
      · next kind => exact .imports named kind
      split
      · next kind => exact .handler named kind
      split
      · next kind => exact .enumeration named kind
      · exact .silent

/-- A construct declares what its rules introduce, each name where it
belongs. -/
theorem declares_of_mem_declarations
    {site : Site} {declaration : Declaration}
    (listed : declaration ∈ site.declarations) :
    site.Declares declaration.owner declaration.binding := by
  have byKind := site.declaresByKind_declarations
  generalize site.declarations = declarations at listed byKind
  cases byKind with
  | silent =>
      simp at listed
  | hoistedVariables named kind =>
      obtain ⟨declarator, pattern, bound, has, binds, rfl⟩ :=
        Declaration.mem_ofVariables_iff.mp listed
      exact ⟨named, .hoisted, .hoistedVariable kind has binds,
        Ownership.owner_hoisted_iff.mpr rfl⟩
  | blockVariables named kind =>
      obtain ⟨declarator, pattern, bound, has, binds, rfl⟩ :=
        Declaration.mem_ofVariables_iff.mp listed
      exact ⟨named, .enclosing, .blockVariable kind has binds,
        Ownership.owner_enclosing_iff.mpr rfl⟩
  | loop named kind =>
      obtain ⟨keyword, pattern, bound, keywordAt, patternAt, binds, rfl⟩ :=
        Declaration.mem_ofLoop_iff.mp listed
      by_cases isVar : keyword.text = "var"
      · refine ⟨named, .hoisted,
          .hoistedLoopVariable kind keywordAt isVar patternAt binds,
          Ownership.owner_hoisted_iff.mpr ?_⟩
        simp [isVar]
      · refine ⟨named, .itself,
          .loopVariable kind keywordAt isVar patternAt binds, ?_⟩
        simp [isVar, Ownership.Owner]
  | function named like =>
      rcases List.mem_append.mp listed with nameListed | parameterListed
      · obtain ⟨name, nameAt, isName, ⟨declared, rfl⟩ | ⟨expressed, rfl⟩⟩ :=
          Declaration.mem_ofFunctionName_iff.mp nameListed
        · exact ⟨named, .enclosing,
            .functionDeclaration declared nameAt isName,
            Ownership.owner_enclosing_iff.mpr rfl⟩
        · exact ⟨named, .itself,
            .functionExpression expressed nameAt isName, rfl⟩
      · rcases Declaration.mem_ofParameters_iff.mp parameterListed with
          ⟨parameters, parameter, bound, listAt, parameterAt, binds, rfl⟩ |
          ⟨parameter, bound, noList, parameterAt, binds, rfl⟩
        · exact ⟨named, .itself,
            .parameter like listAt parameterAt binds, rfl⟩
        · exact ⟨named, .itself,
            .bareParameter like noList parameterAt binds, rfl⟩
  | classDeclaration named declared =>
      obtain ⟨name, nameAt, rfl⟩ := Declaration.mem_ofNameChild_iff.mp listed
      exact ⟨named, .enclosing, .classDeclaration declared nameAt,
        Ownership.owner_enclosing_iff.mpr rfl⟩
  | classExpression named kind =>
      obtain ⟨name, nameAt, rfl⟩ := Declaration.mem_ofNameChild_iff.mp listed
      exact ⟨named, .itself, .classExpression kind nameAt, rfl⟩
  | imports named kind =>
      obtain ⟨part, has, partListed⟩ := Declaration.mem_ofImport_iff.mp listed
      obtain ⟨name, ⟨isName, rfl⟩ | ⟨isSpace, member, isName⟩ |
          ⟨isList, specifier, member, imports⟩, rfl⟩ :=
        Declaration.mem_ofImportPart_iff.mp partListed
      · exact ⟨named, .whole, .importedDefault kind has isName, rfl⟩
      · exact ⟨named, .whole,
          .importedNamespace kind has isSpace member isName, rfl⟩
      · exact ⟨named, .whole,
          .importedMember kind has isList member imports, rfl⟩
  | handler named kind =>
      obtain ⟨pattern, bound, patternAt, binds, rfl⟩ :=
        Declaration.mem_ofCatch_iff.mp listed
      exact ⟨named, .itself, .caughtName kind patternAt binds, rfl⟩
  | enumeration named kind =>
      obtain ⟨name, nameAt, rfl⟩ := Declaration.mem_ofNameChild_iff.mp listed
      exact ⟨named, .enclosing, .enumeration kind nameAt,
        Ownership.owner_enclosing_iff.mpr rfl⟩

/-- Everything that the rules introduce is declared. -/
theorem mem_declarations_of_declares
    {site : Site} {owner : Path} {binding : Binding}
    (declares : site.Declares owner binding) :
    (⟨owner, binding⟩ : Declaration) ∈ site.declarations := by
  obtain ⟨named, ownership, introduced, owned⟩ := declares
  cases introduced with
  | hoistedVariable kind has binds =>
      obtain rfl := Ownership.owner_hoisted_iff.mp owned
      simp only [declarations, named, kind]
      exact Declaration.mem_ofVariables_iff.mpr ⟨_, _, _, has, binds, rfl⟩
  | blockVariable kind has binds =>
      obtain rfl := Ownership.owner_enclosing_iff.mp owned
      simp only [declarations, named, kind]
      exact Declaration.mem_ofVariables_iff.mpr ⟨_, _, _, has, binds, rfl⟩
  | hoistedLoopVariable kind keywordAt isVar patternAt binds =>
      obtain rfl := Ownership.owner_hoisted_iff.mp owned
      simp only [declarations, named, kind]
      exact Declaration.mem_ofLoop_iff.mpr
        ⟨_, _, _, keywordAt, patternAt, binds, by simp [isVar]⟩
  | loopVariable kind keywordAt isVar patternAt binds =>
      obtain rfl : owner = site.path := owned
      simp only [declarations, named, kind]
      exact Declaration.mem_ofLoop_iff.mpr
        ⟨_, _, _, keywordAt, patternAt, binds, by simp [isVar]⟩
  | functionDeclaration declared nameAt isName =>
      obtain rfl := Ownership.owner_enclosing_iff.mp owned
      rw [declarations_of_isFunctionLike named
        (isFunctionLike_of_mem_functionDeclarationKinds declared)]
      refine List.mem_append_left _ (Declaration.mem_ofFunctionName_iff.mpr ?_)
      exact ⟨_, nameAt, isName, Or.inl ⟨declared, rfl⟩⟩
  | functionExpression expressed nameAt isName =>
      obtain rfl : owner = site.path := owned
      rw [declarations_of_isFunctionLike named
        (isFunctionLike_of_mem_functionExpressionKinds expressed)]
      refine List.mem_append_left _ (Declaration.mem_ofFunctionName_iff.mpr ?_)
      exact ⟨_, nameAt, isName, Or.inr ⟨expressed, rfl⟩⟩
  | parameter like listAt parameterAt binds =>
      obtain rfl : owner = site.path := owned
      rw [declarations_of_isFunctionLike named like]
      refine List.mem_append_right _ (Declaration.mem_ofParameters_iff.mpr ?_)
      exact Or.inl ⟨_, _, _, listAt, parameterAt, binds, rfl⟩
  | bareParameter like noList parameterAt binds =>
      obtain rfl : owner = site.path := owned
      rw [declarations_of_isFunctionLike named like]
      refine List.mem_append_right _ (Declaration.mem_ofParameters_iff.mpr ?_)
      exact Or.inr ⟨_, _, noList, parameterAt, binds, rfl⟩
  | classDeclaration declared nameAt =>
      obtain rfl := Ownership.owner_enclosing_iff.mp owned
      rw [declarations_of_classDeclaration named declared]
      exact Declaration.mem_ofNameChild_iff.mpr ⟨_, nameAt, rfl⟩
  | classExpression kind nameAt =>
      obtain rfl : owner = site.path := owned
      simp only [declarations, named, kind]
      exact Declaration.mem_ofNameChild_iff.mpr ⟨_, nameAt, rfl⟩
  | importedDefault kind has isName =>
      obtain rfl : owner = [] := owned
      simp only [declarations, named, kind]
      refine Declaration.mem_ofImport_iff.mpr ⟨_, has, ?_⟩
      exact Declaration.mem_ofImportPart_iff.mpr
        ⟨_, Or.inl ⟨isName, rfl⟩, rfl⟩
  | importedNamespace kind has isSpace member isName =>
      obtain rfl : owner = [] := owned
      simp only [declarations, named, kind]
      refine Declaration.mem_ofImport_iff.mpr ⟨_, has, ?_⟩
      exact Declaration.mem_ofImportPart_iff.mpr
        ⟨_, Or.inr (Or.inl ⟨isSpace, member, isName⟩), rfl⟩
  | importedMember kind has isList member imports =>
      obtain rfl : owner = [] := owned
      simp only [declarations, named, kind]
      refine Declaration.mem_ofImport_iff.mpr ⟨_, has, ?_⟩
      exact Declaration.mem_ofImportPart_iff.mpr
        ⟨_, Or.inr (Or.inr ⟨isList, _, member, imports⟩), rfl⟩
  | caughtName kind patternAt binds =>
      obtain rfl : owner = site.path := owned
      simp only [declarations, named, kind]
      exact Declaration.mem_ofCatch_iff.mpr ⟨_, _, patternAt, binds, rfl⟩
  | enumeration kind nameAt =>
      obtain rfl := Ownership.owner_enclosing_iff.mp owned
      simp only [declarations, named, kind]
      exact Declaration.mem_ofNameChild_iff.mpr ⟨_, nameAt, rfl⟩

theorem mem_declarations_iff {site : Site} {declaration : Declaration} :
    declaration ∈ site.declarations ↔
      site.Declares declaration.owner declaration.binding :=
  ⟨declares_of_mem_declarations, mem_declarations_of_declares⟩

end Site

end CallAudit
