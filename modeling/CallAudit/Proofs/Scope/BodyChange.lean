import CallAudit.Proofs.Scope.Twin

/-!
# Function bodies do not leak

The declarations that belong outside a function are the same before and after
its body is exchanged.  So the names used around the function resolve as before
(`ScopeTable.resolve_outside_changed_body`).
-/

namespace CallAudit

namespace BodyChange

variable {tree : Node} {function body : Site} {fresh : Node}

/-! ## Declarations outside the function -/

/-- Does a declaration belong to a scope that is neither the function nor
inside it? -/
def belongsOutside (_ : BodyChange tree function body fresh)
    (declaration : Declaration) : Bool :=
  !function.path.isSuffixOf declaration.owner

variable (change : BodyChange tree function body fresh)

include change

theorem belongsOutside_iff {declaration : Declaration} :
    change.belongsOutside declaration = true ↔
      ¬ function.path <:+ declaration.owner := by
  rw [belongsOutside, Bool.not_eq_true', ← Bool.not_eq_true,
    List.isSuffixOf_iff_suffix]

/-- Nothing in the old body is declared outside the function. -/
theorem filter_declarations_body :
    (body.subtree.flatMap Site.declarations).filter change.belongsOutside =
      [] := by
  rw [List.filter_eq_nil_iff]
  intro declaration listed
  rw [change.belongsOutside_iff, not_not]
  exact Site.suffix_owner_of_body change.isFunctionScope change.isBody
    change.importFree declaration listed

/-- A path that is no longer than that of the function does not lead into the
body. -/
theorem not_suffix_of_length_le {path : Path}
    (short : path.length ≤ function.path.length) : ¬ body.path <:+ path := by
  obtain ⟨index, pathShape, _⟩ := Site.eq_of_mem_children change.isBody
  intro inside
  have bound := inside.length_le
  rw [pathShape, List.length_cons] at bound
  omega

theorem kept_function : change.Kept function :=
  ⟨change.present, change.not_suffix_of_length_le (Nat.le_refl _)⟩

/-- Nothing in the new body is declared outside the function. -/
theorem filter_declarations_freshBody :
    ((change.twin body).subtree.flatMap Site.declarations).filter
        change.belongsOutside = [] := by
  have free : (change.twin body).node.ImportFree := by
    rw [twin, Site.replace_node_of_path_eq rfl]
    exact change.freshImportFree
  have scope : (change.twin function).isFunctionScope = true := by
    rw [change.twin_isFunctionScope change.kept_function]
    exact change.isFunctionScope
  have below : change.twin body ∈ (change.twin function).children := by
    rw [change.twin_children change.kept_function]
    exact List.mem_map_of_mem change.isBody
  rw [List.filter_eq_nil_iff]
  intro declaration listed
  rw [change.belongsOutside_iff, not_not]
  exact Site.suffix_owner_of_body scope below free declaration listed

/-- The declarations below a site that belong outside the function are the same
in both trees. -/
theorem filter_declarations_twin (site : Site)
    (given : site = body ∨ change.Kept site) :
    ((change.twin site).subtree.flatMap Site.declarations).filter
        change.belongsOutside =
      ((site.subtree.flatMap Site.declarations).filter
        change.belongsOutside).map (Declaration.replace body.path fresh) := by
  refine change.kept_induction (motive := fun site =>
    ((change.twin site).subtree.flatMap Site.declarations).filter
        change.belongsOutside =
      ((site.subtree.flatMap Site.declarations).filter
        change.belongsOutside).map (Declaration.replace body.path fresh))
    ?_ ?_ site given
  -- The two bodies may declare different things, but nothing that is left over.
  · rw [change.filter_declarations_body, change.filter_declarations_freshBody,
      List.map_nil]
  · intro site kept inductionHypothesis
    rw [Site.subtree_eq, Site.subtree_eq, change.twin_children kept,
      List.flatMap_cons, List.flatMap_cons, List.filter_append,
      List.filter_append, List.map_append, change.twin_declarations kept]
    congr 1
    · rw [List.filter_map]
      rfl
    · rw [List.flatMap_map, List.flatMap_assoc, List.flatMap_assoc,
        List.filter_flatMap, List.filter_flatMap, List.map_flatMap]
      exact List.flatMap_congr inductionHypothesis

/-- What belongs outside the function is declared at a kept site. -/
theorem kept_of_belongsOutside (site : Site)
    (given : site = body ∨ change.Kept site) :
    ∀ declaration ∈ site.subtree.flatMap Site.declarations,
      change.belongsOutside declaration = true →
        change.Kept declaration.binding.site := by
  refine change.kept_induction (motive := fun site =>
    ∀ declaration ∈ site.subtree.flatMap Site.declarations,
      change.belongsOutside declaration = true →
        change.Kept declaration.binding.site) ?_ ?_ site given
  · intro declaration listed outside
    have noneOutside :=
      List.filter_eq_nil_iff.mp change.filter_declarations_body
    exact absurd outside (noneOutside declaration listed)
  · intro site kept inductionHypothesis declaration listed outside
    rw [Site.subtree_eq, List.flatMap_cons, List.mem_append,
      List.flatMap_assoc] at listed
    rcases listed with own | below
    · obtain ⟨_, _, introduced, _⟩ := Site.declares_of_mem_declarations own
      exact change.kept_of_introduces kept introduced
    · obtain ⟨child, childBelow, childListed⟩ := List.mem_flatMap.mp below
      exact inductionHypothesis child childBelow declaration childListed
        outside

theorem kept_root : change.Kept (Site.root tree) :=
  ⟨tree.root_mem_sites, change.not_suffix_of_length_le (Nat.zero_le _)⟩

theorem find?_filter_belongsOutside {owner : Path} (name : String)
    (outside : ¬ function.path <:+ owner) (declarations : List Declaration) :
    (declarations.filter change.belongsOutside).find?
        (Node.isAbout owner name) =
      declarations.find? (Node.isAbout owner name) := by
  rw [List.find?_filter]
  apply List.find?_congr
  intro declaration _
  rw [Bool.eq_iff_iff, decide_eq_true_iff, and_iff_right_iff_imp]
  intro about
  rw [change.belongsOutside_iff, (Node.isAbout_iff.mp about).2]
  exact outside

/-- A scope that is neither the function nor inside it says the same about a
name in both trees. -/
theorem lookup_twin {owner : Path} (name : String)
    (outside : ¬ function.path <:+ owner) :
    (ScopeTable.ofTree (tree.replace body.path fresh)).lookup owner name =
      ((ScopeTable.ofTree tree).lookup owner name).map
        (Binding.replace body.path fresh) := by
  have alike := change.filter_declarations_twin (Site.root tree)
    (Or.inr change.kept_root)
  have isRoot : change.twin (Site.root tree) =
      Site.root (tree.replace body.path fresh) :=
    Site.replace_root tree
  -- The lists of all declarations differ.  The first one about the name is found
  -- among those that belong outside the function, and these are alike.
  rw [ScopeTable.lookup_ofTree, ScopeTable.lookup_ofTree, Node.declarations,
    Node.declarations, Node.walk_eq_sites, Node.walk_eq_sites,
    Node.sites_eq_subtree, Node.sites_eq_subtree,
    ← change.find?_filter_belongsOutside name outside, ← isRoot, alike,
    List.find?_map, ← change.find?_filter_belongsOutside name outside
      (List.flatMap _ _), Option.map_map, Option.map_map]
  rfl

theorem resolveName_twin (name : String) :
    ∀ path : Path, ¬ function.path <:+ path →
      (ScopeTable.ofTree (tree.replace body.path fresh)).resolveName name
          path =
        ((ScopeTable.ofTree tree).resolveName name path).map
          (Binding.replace body.path fresh)
  | [], _ => rfl
  | index :: owner, outside => by
      have ownerOutside := Path.not_suffix_of_cons outside
      rw [ScopeTable.resolveName, ScopeTable.resolveName,
        change.lookup_twin name ownerOutside,
        resolveName_twin name owner ownerOutside, Option.map_or]

/-- A binding that a name outside the function resolves to was declared at a
kept site. -/
theorem kept_of_resolveName {name : String} {binding : Binding} :
    ∀ path : Path, ¬ function.path <:+ path →
      (ScopeTable.ofTree tree).resolveName name path = some binding →
        change.Kept binding.site
  | [], _, resolved => by
      simp [ScopeTable.resolveName] at resolved
  | index :: owner, outside, resolved => by
      have ownerOutside := Path.not_suffix_of_cons outside
      rw [ScopeTable.resolveName, Option.or_eq_some_iff] at resolved
      rcases resolved with found | ⟨_, further⟩
      · rw [ScopeTable.lookup_ofTree, Option.map_eq_some_iff] at found
        obtain ⟨declaration, search, rfl⟩ := found
        have listed := List.mem_of_find?_eq_some search
        rw [Node.declarations, Node.walk_eq_sites, Node.sites_eq_subtree]
          at listed
        refine change.kept_of_belongsOutside (Site.root tree)
          (Or.inr change.kept_root) declaration listed ?_
        rw [change.belongsOutside_iff,
          (Node.isAbout_iff.mp (List.find?_some search)).2]
        exact ownerOutside
      · exact kept_of_resolveName owner ownerOutside further

end BodyChange

/-! ## The conclusion -/

/-- Two bindings say the same of a name and were declared at the same place. -/
structure Binding.Agrees (left right : Binding) : Prop where
  name : left.name = right.name
  kind : left.kind = right.kind
  hasInitializer : left.hasInitializer = right.hasInitializer
  hasDefault : left.hasDefault = right.hasDefault
  place : left.site.path = right.site.path

namespace ScopeTable

/-- Whatever the body of a function is exchanged for, both trees have the same
nodes outside the function, and each of these resolves as before: to nothing in
both trees, or to bindings that agree and were declared outside the body. -/
theorem resolve_outside_changed_body
    {tree : Node} {function body : Site} {fresh : Node}
    (change : BodyChange tree function body fresh) :
    (∀ site ∈ tree.sites, ¬ function.path <:+ site.path →
      ∃ twin ∈ (tree.replace body.path fresh).sites,
        twin.path = site.path ∧ twin.node.label = site.node.label ∧
          Option.Rel
            (fun before after =>
              before.Agrees after ∧ ¬ body.path <:+ before.site.path)
            ((ofTree tree).resolve site)
            ((ofTree (tree.replace body.path fresh)).resolve twin)) ∧
      ∀ twin ∈ (tree.replace body.path fresh).sites,
        ¬ function.path <:+ twin.path →
          ∃ site ∈ tree.sites, site.path = twin.path := by
  have outsideBody : ∀ {path : Path}, ¬ function.path <:+ path →
      ¬ body.path <:+ path := by
    intro path outside inside
    obtain ⟨index, pathShape, _⟩ := Site.eq_of_mem_children change.isBody
    rw [pathShape] at inside
    exact outside ((List.suffix_cons index function.path).trans inside)
  constructor
  · intro site member outside
    have kept : change.Kept site := ⟨member, outsideBody outside⟩
    refine ⟨change.twin site,
      Node.replace_mem_sites fresh site member kept.2, rfl,
      change.twin_label kept, ?_⟩
    have alike := change.resolveName_twin site.text site.path outside
    have samePath : (change.twin site).path = site.path := rfl
    rw [resolve, resolve, change.twin_text kept, samePath, alike]
    cases resolved : (ofTree tree).resolveName site.text site.path with
    | none =>
        exact Option.Rel.none
    | some binding =>
        have declaredOutside :=
          (change.kept_of_resolveName site.path outside resolved).2
        exact Option.Rel.some ⟨⟨rfl, rfl, rfl, rfl, rfl⟩, declaredOutside⟩
  · intro twin member outside
    obtain ⟨site, siteMember, rfl⟩ :=
      Node.exists_of_mem_sites_replace twin member (outsideBody outside)
    exact ⟨site, siteMember, rfl⟩

/-- The body `{ let fee; }`. -/
def feeBody : Node :=
  .node { kind := "statement_block", field := some "body" } [feeDeclaration]

/-- The body `{ for (let fee; fee;) let fee; }`. -/
def loopingBody : Node :=
  .node { kind := "statement_block", field := some "body" }
    [feeLoop, feeDeclaration]

/-- The function `function pay() { let fee; }`. -/
def payFunction : Node :=
  .node { kind := "function_declaration" }
    [.node { kind := "identifier", field := some "name", text := "pay" } [],
      feeBody]

/-- The program `function pay() { let fee; } let fee; fee`. -/
def payProgram : Node :=
  .node { kind := "program" } [payFunction, feeDeclaration, feeName]

theorem payChange :
    BodyChange payProgram ⟨[0], [payProgram], payFunction⟩
      ⟨[1, 0], [payFunction, payProgram], feeBody⟩ loopingBody where
  present := List.mem_of_getElem? (i := 1) rfl
  functionLike := ⟨by decide, by decide⟩
  notParameters := by
    intro _ _
    decide
  isBody := List.mem_of_getElem? (i := 1) rfl
  role := rfl
  freshRole := rfl
  importFree := by
    simp [feeBody, feeDeclaration, Node.importFree_node_iff]
  freshImportFree := by
    simp [loopingBody, feeLoop, feeDeclaration, feeName,
      Node.importFree_node_iff]

/-- The use of the name after the function finds the declaration after the
function, before and after the exchange. -/
theorem resolve_fee_outside_pay :
    ∃ twin ∈ (payProgram.replace [1, 0] loopingBody).sites,
      ∃ before after,
        (ofTree payProgram).resolve ⟨[2], [payProgram], feeName⟩ =
            some before ∧
          (ofTree (payProgram.replace [1, 0] loopingBody)).resolve twin =
            some after ∧
          before.Agrees after ∧ before.site.path = [0, 0, 1] := by
  have member : Site.mk [2] [payProgram] feeName ∈ payProgram.sites :=
    List.mem_of_getElem? (i := 10) rfl
  have resolved : ∃ binding, binding.site.path = [0, 0, 1] ∧
      (ofTree payProgram).resolve ⟨[2], [payProgram], feeName⟩ =
        some binding := by
    rw [ofTree, Node.declarations, Node.walk_eq_sites]
    exact ⟨_, rfl, rfl⟩
  obtain ⟨before, place, found⟩ := resolved
  obtain ⟨twin, twinMember, _, _, alike⟩ :=
    (resolve_outside_changed_body payChange).1 _ member (by decide)
  rw [found] at alike
  cases resolvedAfter : (ofTree (payProgram.replace [1, 0] loopingBody)).resolve
      twin with
  | none =>
      rw [resolvedAfter] at alike
      cases alike
  | some after =>
      rw [resolvedAfter] at alike
      cases alike with
      | some agree =>
          exact ⟨twin, twinMember, before, after, found, resolvedAfter,
            agree.1, place⟩

end ScopeTable

end CallAudit
