import CallAudit.Proofs.Scope.Listing
import CallAudit.Scope.Table

/-!
# Resolving names

The scope table is filled by one pass over all declarations in which the first
one for a scope and a name wins, and a name is looked up by climbing through
the ancestors.  The result is the stateless rule: the nearest proper ancestor
that owns a declaration of the name decides, with the first declaration it
owns.
-/

namespace CallAudit

namespace ScopeTable

/-! ## Filling the table -/

theorem lookup_eq (table : ScopeTable) (owner : Path) (name : String) :
    table.lookup owner name =
      (table.entries.find? (Node.isAbout owner name)).map
        Declaration.binding :=
  rfl

/-- Recording a declaration changes what a scope says about a name only when
the scope was silent and the declaration is about both. -/
theorem lookup_declare
    (table : ScopeTable) (declaration : Declaration)
    (owner : Path) (name : String) :
    (table.declare declaration).lookup owner name =
      (table.lookup owner name).or
        (([declaration].find? (Node.isAbout owner name)).map
          Declaration.binding) := by
  by_cases about : Node.isAbout owner name declaration = true
  · obtain ⟨named, owned⟩ := Node.isAbout_iff.mp about
    rw [declare, named, owned]
    cases known : table.lookup owner name with
    | some binding =>
        simp [known]
    | none =>
        rw [lookup_eq, Option.map_eq_none_iff] at known
        simp [lookup_eq, known]
  · have silent : [declaration].find? (Node.isAbout owner name) = none := by
      simp [about]
    rw [silent, declare]
    split
    · simp
    · simp [lookup_eq, about]

theorem lookup_foldl_declare
    (declarations : List Declaration) (table : ScopeTable)
    (owner : Path) (name : String) :
    (declarations.foldl declare table).lookup owner name =
      (table.lookup owner name).or
        ((declarations.find? (Node.isAbout owner name)).map
          Declaration.binding) := by
  induction declarations generalizing table with
  | nil =>
      simp
  | cons declaration rest inductionHypothesis =>
      have shape : declaration :: rest = [declaration] ++ rest := rfl
      rw [List.foldl_cons, inductionHypothesis, lookup_declare, Option.or_assoc,
        shape, List.find?_append, Option.map_or]

/-- The table of a tree holds the first declaration of every name in every
scope. -/
theorem lookup_ofTree (tree : Node) (owner : Path) (name : String) :
    (ofTree tree).lookup owner name =
      (tree.declarations.find? (Node.isAbout owner name)).map
        Declaration.binding := by
  rw [ofTree, ofDeclarations, lookup_foldl_declare]
  rfl

theorem lookup_ofTree_eq_some_iff
    {tree : Node} {owner : Path} {name : String} {binding : Binding} :
    (ofTree tree).lookup owner name = some binding ↔
      tree.FirstDeclaration owner name binding := by
  rw [lookup_ofTree, Node.firstDeclaration_iff_find?]

theorem lookup_ofTree_eq_none_iff
    {tree : Node} {owner : Path} {name : String} :
    (ofTree tree).lookup owner name = none ↔
      ¬ tree.DeclaredIn owner name := by
  rw [lookup_ofTree, Option.map_eq_none_iff, List.find?_eq_none,
    Node.declaredIn_iff]
  simp

/-! ## Climbing -/

/-- Climbing along the path of a site asks its proper ancestors in turn. -/
theorem resolveName_eq_findSome?
    (table : ScopeTable) (name : String) {tree : Node} :
    ∀ site ∈ tree.sites,
      table.resolveName name site.path =
        site.above.findSome? fun scope => table.lookup scope.path name := by
  apply Node.sites_induction
  · rfl
  · intro site holds child below
    obtain ⟨index, pathShape, _⟩ := Site.eq_of_mem_children below
    rw [pathShape, Site.above_of_mem_children below, resolveName, holds,
      List.findSome?_cons]
    cases table.lookup site.path name with
    | none =>
        rfl
    | some binding =>
        rfl

theorem resolve_eq_findSome?
    (table : ScopeTable) {tree : Node} {site : Site}
    (member : site ∈ tree.sites) :
    table.resolve site =
      site.above.findSome? fun scope =>
        table.lookup scope.path site.text :=
  resolveName_eq_findSome? table site.text site member

/-- A name has no binding exactly when no proper ancestor owns a declaration
of it. -/
theorem resolve_ofTree_eq_none_iff
    {tree : Node} {site : Site} (member : site ∈ tree.sites) :
    (ofTree tree).resolve site = none ↔
      ∀ scope ∈ site.above, ¬ tree.DeclaredIn scope.path site.text := by
  rw [resolve_eq_findSome? _ member, List.findSome?_eq_none_iff]
  simp only [lookup_ofTree_eq_none_iff]

/-- A name has the binding that the nearest owning ancestor declares first. -/
theorem resolve_ofTree_eq_some_iff
    {tree : Node} {site : Site} (member : site ∈ tree.sites)
    {binding : Binding} :
    (ofTree tree).resolve site = some binding ↔
      ∃ nearer scope further,
        site.above = nearer ++ scope :: further ∧
          (∀ other ∈ nearer, ¬ tree.DeclaredIn other.path site.text) ∧
          tree.FirstDeclaration scope.path site.text binding := by
  rw [resolve_eq_findSome? _ member, List.findSome?_eq_some_iff]
  simp only [lookup_ofTree_eq_none_iff, lookup_ofTree_eq_some_iff]
  constructor
  · rintro ⟨nearer, scope, further, shape, first, silent⟩
    exact ⟨nearer, scope, further, shape, silent, first⟩
  · rintro ⟨nearer, scope, further, shape, silent, first⟩
    exact ⟨nearer, scope, further, shape, first, silent⟩

/-! ## The rule -/

/-- Resolution is the stateless rule: the nearest proper ancestor that owns a
declaration of the name decides, with the first declaration it owns, and a name
is unknown exactly when no proper ancestor owns one. -/
theorem resolves_to_nearest_first_declaration
    (tree : Node) (site : Site) (member : site ∈ tree.sites) :
    (∀ binding,
      (ofTree tree).resolve site = some binding ↔
        ∃ nearer scope further,
          site.above = nearer ++ scope :: further ∧
            (∀ other ∈ nearer, ¬ tree.DeclaredIn other.path site.text) ∧
            tree.FirstDeclaration scope.path site.text binding) ∧
      ((ofTree tree).resolve site = none ↔
        ∀ scope ∈ site.above, ¬ tree.DeclaredIn scope.path site.text) := by
  constructor
  · intro binding
    exact resolve_ofTree_eq_some_iff member
  · exact resolve_ofTree_eq_none_iff member

/-- The statement `let fee;`. -/
def feeDeclaration : Node :=
  .node { kind := "lexical_declaration" }
    [.node { kind := "variable_declarator" }
      [.node { kind := "identifier", field := some "name", text := "fee" } []]]

/-- The name `fee`. -/
def feeName : Node :=
  .node { kind := "identifier", text := "fee" } []

/-- The loop `for (let fee; fee;)`. -/
def feeLoop : Node :=
  .node { kind := "for_statement" } [feeDeclaration, feeName]

/-- The program `let fee; for (let fee; fee;)`. -/
def feeProgram : Node :=
  .node { kind := "program" } [feeDeclaration, feeLoop]

/-- The use of the name in the loop finds the declaration in the loop. -/
theorem resolves_to_inner_fee :
    ∃ binding nearer scope further,
      binding.site.path = [0, 0, 0, 1] ∧
        (Site.mk [1, 1] [feeLoop, feeProgram] feeName).above =
          nearer ++ scope :: further ∧
        (∀ other ∈ nearer, ¬ feeProgram.DeclaredIn other.path "fee") ∧
        feeProgram.FirstDeclaration scope.path "fee" binding := by
  have member : Site.mk [1, 1] [feeLoop, feeProgram] feeName ∈
      feeProgram.sites :=
    List.mem_of_getElem? (i := 8) rfl
  have resolved :
      ∃ binding, binding.site.path = [0, 0, 0, 1] ∧
        (ofTree feeProgram).resolve ⟨[1, 1], [feeLoop, feeProgram], feeName⟩ =
          some binding := by
    rw [ofTree, Node.declarations, Node.walk_eq_sites]
    exact ⟨_, rfl, rfl⟩
  obtain ⟨binding, place, found⟩ := resolved
  obtain ⟨nearer, scope, further, rule⟩ :=
    ((resolves_to_nearest_first_declaration feeProgram _ member).1 binding).mp
      found
  exact ⟨binding, nearer, scope, further, place, rule⟩

end ScopeTable

end CallAudit
