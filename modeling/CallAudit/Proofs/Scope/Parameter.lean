import CallAudit.Proofs.Risk.Leaf
import CallAudit.Proofs.Scope.Resolution
import CallAudit.Proofs.Tree.Replace
import CallAudit.Risk.Verdict

/-!
# Parameters and the own names of functions

A function owns its parameters and declares them before anything below it can
declare a name for it.  Inside the function a parameter is therefore what its
name stands for, with one exception.  A function expression owns its own name as
well and lists it first, so the own name hides a parameter with the same text.
A function declaration that is the whole tree does the same, because there is no
scope around it for its name to go to.
-/

namespace CallAudit

/-! ## Names of a construct's own scope -/

namespace Site

theorem nearest_suffix (opens : Site → Bool) (site : Site) :
    ((site.above.find? opens).map Site.path).getD [] <:+ site.path := by
  cases found : site.above.find? opens with
  | none =>
      exact List.nil_suffix
  | some scope =>
      exact path_suffix_of_mem_above (List.mem_of_find?_eq_some found)

theorem owner_suffix_of_declares
    {construct : Site} {owner : Path} {binding : Binding}
    (declares : construct.Declares owner binding) :
    owner <:+ construct.path := by
  obtain ⟨_, ownership, _, owned⟩ := declares
  cases ownership with
  | hoisted =>
      rw [Ownership.owner_hoisted_iff.mp owned]
      exact nearest_suffix isFunctionScope construct
  | enclosing =>
      rw [Ownership.owner_enclosing_iff.mp owned]
      exact nearest_suffix isScope construct
  | itself =>
      obtain rfl : owner = construct.path := owned
      exact List.suffix_rfl
  | whole =>
      have isRoot : owner = [] := owned
      rw [isRoot]
      exact List.nil_suffix

end Site

/-- What a construct declares in its own scope comes before all that is
declared there from below. -/
theorem Node.firstDeclaration_of_own
    {tree : Node} {construct : Site} {name : String}
    {declaration : Declaration} (member : construct ∈ tree.sites)
    (found : construct.declarations.find? (isAbout construct.path name) =
      some declaration) :
    tree.FirstDeclaration construct.path name declaration.binding := by
  obtain ⟨listed, about, first⟩ :=
    (find?_eq_some_iff_least Binding.listedBefore_asymm
      construct.declarations_pairwise _ declaration).mp found
  obtain ⟨named, owned⟩ := isAbout_iff.mp about
  have declares := Site.declares_of_mem_declarations listed
  rw [owned] at declares
  refine ⟨construct, member, declares, named, ?_⟩
  intro other otherMember later otherDeclares laterNamed
  obtain ⟨steps, shape⟩ := Site.owner_suffix_of_declares otherDeclares
  by_cases atPlace : steps = []
  · have samePath : construct.path = other.path := by
      rw [← shape, atPlace, List.nil_append]
    obtain rfl := Node.eq_of_path_eq member otherMember samePath
    have laterListed := Site.mem_declarations_of_declares otherDeclares
    rcases first _ laterListed (isAbout_iff.mpr ⟨laterNamed, rfl⟩) with
      same | before
    · left
      rw [← same]
      exact ⟨rfl, rfl⟩
    · exact Or.inr (Or.inr ⟨rfl, before⟩)
  · have before := Path.before_below construct.path steps atPlace
    rw [shape] at before
    exact Or.inr (Or.inl before)

/-! ## Functions -/

namespace Site

/-- A name bound by a parameter: one of the parameter list, or the single bare
parameter of a function without a list. -/
inductive HasParameter (function : Site) (bound : BoundName) : Prop
  | listed {parameters parameter : Site} :
      function.child? "parameters" = some parameters →
      parameter ∈ parameters.namedChildren →
      parameter.Binds false bound →
      HasParameter function bound
  | bare {parameter : Site} :
      function.child? "parameters" = none →
      function.child? "parameter" = some parameter →
      parameter.Binds false bound →
      HasParameter function bound

/-- The name of a function that belongs to the function itself. -/
def OwnsName (function own : Site) : Prop :=
  function.child? "name" = some own ∧ own.kind = "identifier" ∧
    (function.kind ∈ functionExpressionKinds ∨
      (function.kind ∈ functionDeclarationKinds ∧ function.path = []))

theorem mem_ofParameters_iff_hasParameter
    {function : Site} {declaration : Declaration} :
    declaration ∈ Declaration.ofParameters function ↔
      ∃ bound, function.HasParameter bound ∧
        ⟨function.path, parameterOf bound⟩ = declaration := by
  rw [Declaration.mem_ofParameters_iff]
  constructor
  · rintro (⟨parameters, parameter, bound, listAt, parameterAt, binds, rfl⟩ |
      ⟨parameter, bound, noList, parameterAt, binds, rfl⟩)
    · exact ⟨bound, .listed listAt parameterAt binds, rfl⟩
    · exact ⟨bound, .bare noList parameterAt binds, rfl⟩
  · rintro ⟨bound, has, rfl⟩
    cases has with
    | listed listAt parameterAt binds =>
        exact Or.inl ⟨_, _, bound, listAt, parameterAt, binds, rfl⟩
    | bare noList parameterAt binds =>
        exact Or.inr ⟨_, bound, noList, parameterAt, binds, rfl⟩

theorem blockOwner_eq_path_iff {tree : Node} {site : Site}
    (member : site ∈ tree.sites) :
    site.blockOwner = site.path ↔ site.path = [] := by
  have rootOwner : site.path = [] → site.blockOwner = [] := by
    intro atRoot
    have suffix := nearest_suffix isScope site
    rw [atRoot] at suffix
    exact List.suffix_nil.mp suffix
  constructor
  · intro same
    cases found : site.above.find? isScope with
    | none =>
        rw [← same, blockOwner, found]
        rfl
    | some scope =>
        have before := Node.before_of_mem_above member scope
          (List.mem_of_find?_eq_some found)
        have isOwner : site.blockOwner = scope.path := by
          rw [blockOwner, found]
          rfl
        rw [← isOwner, same] at before
        exact absurd before (Path.before_irrefl site.path)
  · intro atRoot
    rw [rootOwner atRoot, atRoot]

/-- A function declares its name in its own scope exactly when it owns it. -/
theorem mem_ofFunctionName_own_iff {tree : Node} {function : Site}
    (member : function ∈ tree.sites) {binding : Binding} :
    ⟨function.path, binding⟩ ∈ Declaration.ofFunctionName function ↔
      ∃ own, function.OwnsName own ∧
        binding = namedBinding .functionDecl own := by
  have rootOwner := blockOwner_eq_path_iff member
  rw [Declaration.mem_ofFunctionName_iff]
  constructor
  · rintro ⟨own, nameAt, isName, ⟨declared, same⟩ | ⟨expressed, same⟩⟩
    · rw [Declaration.mk.injEq] at same
      have atRoot := rootOwner.mp same.1
      exact ⟨own, ⟨nameAt, isName, Or.inr ⟨declared, atRoot⟩⟩, same.2.symm⟩
    · rw [Declaration.mk.injEq] at same
      exact ⟨own, ⟨nameAt, isName, Or.inl expressed⟩, same.2.symm⟩
  · rintro ⟨own, ⟨nameAt, isName, expressed | ⟨declared, atRoot⟩⟩, rfl⟩
    · exact ⟨own, nameAt, isName, Or.inr ⟨expressed, rfl⟩⟩
    · exact ⟨own, nameAt, isName,
        Or.inl ⟨declared, by rw [rootOwner.mpr atRoot]⟩⟩

section Search

variable {tree : Node} {function : Site} (member : function ∈ tree.sites)
  (named : function.node.named = true) (like : function.IsFunctionLike)

include member named like

/-- The own name of a function is found before any parameter. -/
theorem find?_declarations_of_ownsName {own : Site}
    (owns : function.OwnsName own) :
    function.declarations.find? (Node.isAbout function.path own.text) =
      some ⟨function.path, namedBinding .functionDecl own⟩ := by
  have listed := (mem_ofFunctionName_own_iff member).mpr ⟨own, owns, rfl⟩
  have about : Node.isAbout function.path own.text
      ⟨function.path, namedBinding .functionDecl own⟩ = true :=
    Node.isAbout_iff.mpr ⟨rfl, rfl⟩
  rw [declarations_of_isFunctionLike named like, List.find?_append]
  cases found : (Declaration.ofFunctionName function).find?
      (Node.isAbout function.path own.text) with
  | none =>
      exact absurd about (List.find?_eq_none.mp found _ listed)
  | some declaration =>
      have isOwner := (Node.isAbout_iff.mp (List.find?_some found)).2
      have inside := List.mem_of_find?_eq_some found
      obtain ⟨owner, binding⟩ := declaration
      obtain rfl : owner = function.path := isOwner
      obtain ⟨other, otherOwns, rfl⟩ :=
        (mem_ofFunctionName_own_iff member).mp inside
      have sameName : other = own :=
        Option.some.inj (otherOwns.1.symm.trans owns.1)
      rw [sameName, Option.some_or]

/-- A parameter is found when the function owns no name with the same text. -/
theorem find?_declarations_of_hasParameter {bound : BoundName}
    (has : function.HasParameter bound)
    (noOwn : ∀ own, function.OwnsName own → own.text ≠ bound.site.text) :
    ∃ first, function.HasParameter first ∧
      first.site.text = bound.site.text ∧
      function.declarations.find?
          (Node.isAbout function.path bound.site.text) =
        some ⟨function.path, parameterOf first⟩ := by
  have noName : (Declaration.ofFunctionName function).find?
      (Node.isAbout function.path bound.site.text) = none := by
    rw [List.find?_eq_none]
    rintro ⟨owner, binding⟩ listed about
    obtain ⟨sameText, isOwner⟩ := Node.isAbout_iff.mp about
    obtain rfl : owner = function.path := isOwner
    obtain ⟨own, owns, rfl⟩ := (mem_ofFunctionName_own_iff member).mp listed
    exact noOwn own owns sameText
  have listed := mem_ofParameters_iff_hasParameter.mpr ⟨bound, has, rfl⟩
  have about : Node.isAbout function.path bound.site.text
      ⟨function.path, parameterOf bound⟩ = true :=
    Node.isAbout_iff.mpr ⟨rfl, rfl⟩
  rw [declarations_of_isFunctionLike named like, List.find?_append, noName,
    Option.none_or]
  cases found : (Declaration.ofParameters function).find?
      (Node.isAbout function.path bound.site.text) with
  | none =>
      exact absurd about (List.find?_eq_none.mp found _ listed)
  | some declaration =>
      have sameText := (Node.isAbout_iff.mp (List.find?_some found)).1
      obtain ⟨first, hasFirst, rfl⟩ :=
        mem_ofParameters_iff_hasParameter.mp (List.mem_of_find?_eq_some found)
      exact ⟨first, hasFirst, sameText, rfl⟩

end Search

end Site

/-! ## Uses of a parameter -/

theorem Verdict.ofArgument_of_identifier
    (vocabulary : Vocabulary) (resolve : Site → Option Binding) {site : Site}
    (kind : site.kind = "identifier") :
    ofArgument vocabulary resolve site = ofName site.text (resolve site) := by
  have bare : site.unwrap = site := by
    apply Site.unwrap_of_bare
    intro parenthesized
    rw [kind] at parenthesized
    exact absurd parenthesized (by decide)
  simp only [ofArgument, ofLeaf, bare, kind]
  rfl

namespace ScopeTable

/-- Inside a function, where no nearer scope declares the name of a parameter,
the name stands for a parameter and is rated by its default, unless the function
owns a name with the same text.  That own name hides the parameter, and its uses
pass as harmless. -/
theorem parameter_or_own_name_of_use
    (tree : Node) (vocabulary : Vocabulary) (function use : Site)
    (bound : BoundName) (nearer further : List Site)
    (named : function.node.named = true) (like : function.IsFunctionLike)
    (has : function.HasParameter bound)
    (member : use ∈ tree.sites) (isName : use.kind = "identifier")
    (sameText : use.text = bound.site.text)
    (shape : use.above = nearer ++ function :: further)
    (silent : ∀ scope ∈ nearer, ¬ tree.DeclaredIn scope.path use.text) :
    ((∀ own, function.OwnsName own → own.text ≠ use.text) →
      ∃ first, function.HasParameter first ∧ first.site.text = use.text ∧
        (ofTree tree).resolve use = some (Site.parameterOf first) ∧
        (Verdict.ofArgument vocabulary (ofTree tree).resolve use).level =
          if first.defaulted then .none else .medium) ∧
      (∀ own, function.OwnsName own → own.text = use.text →
        (ofTree tree).resolve use =
            some (Site.namedBinding .functionDecl own) ∧
          Verdict.ofArgument vocabulary (ofTree tree).resolve use =
            .harmless) := by
  have above : function ∈ use.above := by
    rw [shape]
    exact List.mem_append_right nearer List.mem_cons_self
  have functionMember := Node.above_mem_sites member function above
  have resolved : ∀ declaration,
      function.declarations.find? (Node.isAbout function.path use.text) =
        some declaration →
      (ofTree tree).resolve use = some declaration.binding := by
    intro declaration found
    exact (resolve_ofTree_eq_some_iff member).mpr
      ⟨nearer, function, further, shape, silent,
        Node.firstDeclaration_of_own functionMember found⟩
  have rated := Verdict.ofArgument_of_identifier vocabulary
    (ofTree tree).resolve isName
  constructor
  · intro noOwn
    rw [sameText] at noOwn
    obtain ⟨first, hasFirst, firstText, found⟩ :=
      Site.find?_declarations_of_hasParameter functionMember named like has
        noOwn
    rw [← sameText] at found firstText
    have isFirst := resolved _ found
    refine ⟨first, hasFirst, firstText, isFirst, ?_⟩
    rw [rated, isFirst]
    cases defaulted : first.defaulted with
    | true =>
        simp [Verdict.ofName, Site.parameterOf, defaulted, Risk.harmless]
    | false =>
        simp [Verdict.ofName, Site.parameterOf, defaulted]
  · intro own owns ownText
    have found :=
      Site.find?_declarations_of_ownsName functionMember named like owns
    rw [ownText] at found
    have isOwn := resolved _ found
    refine ⟨isOwn, ?_⟩
    rw [rated, isOwn]
    simp [Verdict.ofName, Site.namedBinding]

/-- The name `rate` in a role. -/
def rateName (role : Option String) : Node :=
  .node { kind := "identifier", field := role, text := "rate" } []

/-- The body `{ rate }`. -/
def rateBody : Node :=
  .node { kind := "statement_block", field := some "body" } [rateName none]

/-- The function `function (rate) { rate }` with some parts in front. -/
def rateFunction (front : List Node) : Node :=
  .node { kind := "function_expression" }
    (front ++
      [.node { kind := "formal_parameters", field := some "parameters" }
        [rateName none], rateBody])

def rateProgram (front : List Node) : Node :=
  .node { kind := "program" } [rateFunction front]

def rateFunctionSite (front : List Node) : Site :=
  ⟨[0], [rateProgram front], rateFunction front⟩

/-- The use of `rate` in the body of this function. -/
def rateUse (front : List Node) : Site :=
  ⟨[0, front.length + 1, 0], [rateBody, rateFunction front, rateProgram front],
    rateName none⟩

/-- In `function rate(rate) { rate }` the use stands for the function, and in
`function (rate) { rate }` for the parameter. -/
theorem parameter_or_own_name_of_rate :
    ((ofTree (rateProgram [rateName (some "name")])).resolve
          (rateUse [rateName (some "name")])).map Binding.kind =
        some .functionDecl ∧
      ((ofTree (rateProgram [])).resolve (rateUse [])).map Binding.kind =
        some .parameterDecl ∧
      (Verdict.ofArgument ⟨[], []⟩ (ofTree (rateProgram [])).resolve
        (rateUse [])).level = .medium := by
  have silent : ∀ front, front = [rateName (some "name")] ∨ front = [] →
      ∀ scope ∈ [Site.mk [front.length + 1, 0]
          [rateFunction front, rateProgram front] rateBody],
        ¬ (rateProgram front).DeclaredIn scope.path "rate" := by
    rintro front (rfl | rfl) scope listed
    all_goals
      obtain rfl := List.mem_singleton.mp listed
      rw [← lookup_ofTree_eq_none_iff, ofTree, Node.declarations,
        Node.walk_eq_sites]
      rfl
  have selfNamed := parameter_or_own_name_of_use
    (rateProgram [rateName (some "name")]) ⟨[], []⟩
    (rateFunctionSite [rateName (some "name")])
    (rateUse [rateName (some "name")])
    ⟨⟨[0, 1, 0], _, rateName none⟩, false⟩ _ _ rfl ⟨by decide, by decide⟩
    (.listed rfl (List.mem_singleton_self _) (.plain rfl))
    (List.mem_of_getElem? (i := 6) rfl) rfl rfl rfl (silent _ (Or.inl rfl))
  have anonymous := parameter_or_own_name_of_use
    (rateProgram []) ⟨[], []⟩ (rateFunctionSite []) (rateUse [])
    ⟨⟨[0, 0, 0], _, rateName none⟩, false⟩ _ _ rfl ⟨by decide, by decide⟩
    (.listed rfl (List.mem_singleton_self _) (.plain rfl))
    (List.mem_of_getElem? (i := 5) rfl) rfl rfl rfl (silent _ (Or.inr rfl))
  have ownKind := (selfNamed.2
    ⟨[0, 0], [rateFunction _, rateProgram _], rateName (some "name")⟩
    ⟨rfl, rfl, Or.inl (by decide)⟩ rfl).1
  have noOwn : ∀ own, (rateFunctionSite []).OwnsName own →
      own.text ≠ (rateUse []).text := by
    rintro own ⟨nameAt, _⟩
    have noName : (rateFunctionSite []).child? "name" = none := rfl
    rw [noName] at nameAt
    exact absurd nameAt (by simp)
  obtain ⟨first, _, _, isFirst, level⟩ := anonymous.1 noOwn
  have noDefault : ((ofTree (rateProgram [])).resolve (rateUse [])).map
      Binding.hasDefault = some false := by
    rw [ofTree, Node.declarations, Node.walk_eq_sites]
    rfl
  rw [isFirst, Option.map_some, Option.some.injEq] at noDefault
  have undefaulted : first.defaulted = false := noDefault
  refine ⟨by rw [ownKind]; rfl, by rw [isFirst]; rfl, ?_⟩
  rw [level, undefaulted]
  rfl

end ScopeTable

end CallAudit
