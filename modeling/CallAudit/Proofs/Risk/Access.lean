import CallAudit.Proofs.Risk.Counterpart
import CallAudit.Proofs.Risk.Verdict
import CallAudit.Proofs.Text.Ends

/-!
# Verdicts on property accesses

A property access is harmless for one of two reasons, and neither of them asks
what a name is bound to.

* It short-circuits: one of the links of its chain carries a mark for that.
  `Site.HasLink` leads down the chain, from an access to its object and from a
  call to what is called, out of parentheses after each step.
* The nearest declarator around it takes the accessed property apart with a
  default: `Site.IsDefaulted`.

Any other access is graded low, with the same two suggestions.
-/

namespace CallAudit

/-! ## Links of a chain -/

namespace Site

/-- The role in which a link of a chain has the next one: an access goes on with
its object, and a call with what is called. -/
inductive ContinuesIn : Site → String → Prop
  | access {site : Site} :
      site.kind ∈ memberKinds →
      ContinuesIn site "object"
  | call {site : Site} :
      site.kind = "call_expression" →
      ContinuesIn site "function"

/-- A link of the chain that begins at a site.  Where a site is neither an
access nor a call, or lacks the part to go on with, the chain ends. -/
inductive HasLink : Site → Site → Prop
  | itself {site : Site} {role : String} :
      site.ContinuesIn role →
      HasLink site site
  | further {site base link : Site} {role : String} :
      site.ContinuesIn role →
      site.child? role = some base →
      HasLink base.unwrap link →
      HasLink site link

/-- A site with the mark of a short-circuiting access right below it. -/
def IsMarked (site : Site) : Prop :=
  ∃ mark ∈ site.children, mark.kind = "optional_chain"

/-- A chain one of whose links is marked. -/
def ShortCircuits (site : Site) : Prop :=
  ∃ link, site.HasLink link ∧ link.IsMarked

theorem hasOptionalMark_iff (site : Site) :
    site.node.hasOptionalMark = true ↔ site.IsMarked := by
  rw [hasOptionalMark_eq, List.any_eq_true]
  simp only [beq_iff_eq, IsMarked]

theorem kind_ne_call_of_access {site : Site}
    (access : site.kind ∈ memberKinds) : site.kind ≠ "call_expression" := by
  intro call
  rw [call] at access
  exact absurd access (by decide)

theorem kind_ne_parentheses_of_access {site : Site}
    (access : site.kind ∈ memberKinds) : site.kind ≠ parenthesesKind := by
  intro parentheses
  rw [parentheses] at access
  exact absurd access (by decide)

theorem unwrap_of_access {site : Site} (access : site.kind ∈ memberKinds) :
    site.unwrap = site := by
  apply unwrap_of_bare
  intro parentheses
  exact absurd parentheses (kind_ne_parentheses_of_access access)

theorem ContinuesIn.unique {site : Site} {role other : String}
    (continues : site.ContinuesIn role) (again : site.ContinuesIn other) :
    role = other := by
  cases continues with
  | access isAccess =>
      cases again with
      | access _ =>
          rfl
      | call isCall =>
          exact absurd isCall (kind_ne_call_of_access isAccess)
  | call isCall =>
      cases again with
      | access isAccess =>
          exact absurd isCall (kind_ne_call_of_access isAccess)
      | call _ =>
          rfl

/-- A chain short-circuits in its own site or from the next link on. -/
theorem shortCircuits_iff_of_continuesIn {site : Site} {role : String}
    (continues : site.ContinuesIn role) :
    site.ShortCircuits ↔
      site.IsMarked ∨
        ∃ base, site.child? role = some base ∧ base.unwrap.ShortCircuits := by
  constructor
  · rintro ⟨link, onChain, marked⟩
    cases onChain with
    | itself _ =>
        exact Or.inl marked
    | further again found onChain =>
        rw [again.unique continues] at found
        exact Or.inr ⟨_, found, link, onChain, marked⟩
  · rintro (marked | ⟨base, found, link, onChain, marked⟩)
    · exact ⟨site, .itself continues, marked⟩
    · exact ⟨link, .further continues found onChain, marked⟩

theorem not_shortCircuits_of_ended {site : Site}
    (ended : ∀ role, ¬ site.ContinuesIn role) : ¬ site.ShortCircuits := by
  rintro ⟨link, onChain, _⟩
  cases onChain with
  | itself continues =>
      exact ended _ continues
  | further continues _ _ =>
      exact ended _ continues

/-! ## The question about a chain -/

theorem shortCircuits_of_parentheses {site inner : Site}
    (kind : site.kind = parenthesesKind)
    (first : site.operands.head? = some inner) :
    site.node.shortCircuits = inner.node.shortCircuits := by
  rw [shortCircuits_eq, kind, first]
  rfl

theorem shortCircuits_of_continuesIn {site : Site} {role : String}
    (continues : site.ContinuesIn role) :
    site.node.shortCircuits =
      (site.node.hasOptionalMark ||
        (site.child? role).any fun base => base.node.shortCircuits) := by
  rw [shortCircuits_eq]
  cases continues with
  | access isAccess =>
      have notParentheses := kind_ne_parentheses_of_access isAccess
      simp [notParentheses, isAccess]
  | call isCall =>
      simp [isCall, memberKinds, parenthesesKind]

theorem shortCircuits_of_ended {site : Site}
    (bare : site.kind = parenthesesKind → site.operands = [])
    (ended : ∀ role, ¬ site.ContinuesIn role) :
    site.node.shortCircuits = false := by
  have notAccess : site.kind ∉ memberKinds := fun access =>
    ended _ (.access access)
  have notCall : site.kind ≠ "call_expression" := fun call =>
    ended _ (.call call)
  rw [shortCircuits_eq]
  by_cases parentheses : site.kind = parenthesesKind
  · simp [parentheses, bare parentheses]
  · simp [parentheses, notAccess, notCall]

/-- Parentheses make no difference to a chain. -/
theorem shortCircuits_unwrap (site : Site) :
    site.unwrap.node.shortCircuits = site.node.shortCircuits := by
  induction site using inductionOnChildren with
  | step site inductionHypothesis =>
      rcases site.bare_or_parenthesized with
        bare | ⟨inner, below, kind, first⟩
      · rw [unwrap_of_bare bare]
      · rw [unwrap_of_parentheses kind first,
          shortCircuits_of_parentheses kind first]
        exact inductionHypothesis inner below

theorem any_shortCircuits_iff {found : Option Site}
    (below : ∀ child, found = some child →
      (child.unwrap.node.shortCircuits = true ↔
        child.unwrap.ShortCircuits)) :
    (found.any fun child => child.node.shortCircuits) = true ↔
      ∃ child, found = some child ∧ child.unwrap.ShortCircuits := by
  rw [Option.any_eq_true]
  constructor
  · rintro ⟨child, isFound, holds⟩
    rw [← shortCircuits_unwrap] at holds
    exact ⟨child, isFound, (below child isFound).mp holds⟩
  · rintro ⟨child, isFound, holds⟩
    refine ⟨child, isFound, ?_⟩
    rw [← shortCircuits_unwrap]
    exact (below child isFound).mpr holds

/-- The walk down a chain finds a mark exactly when a link carries one. -/
theorem shortCircuits_unwrap_iff (site : Site) :
    site.unwrap.node.shortCircuits = true ↔ site.unwrap.ShortCircuits := by
  induction site using inductionOnChildren with
  | step site inductionHypothesis =>
      rcases site.bare_or_parenthesized with
        bare | ⟨inner, below, kind, first⟩
      · rw [unwrap_of_bare bare]
        by_cases continues : ∃ role, site.ContinuesIn role
        · obtain ⟨role, continues⟩ := continues
          rw [shortCircuits_of_continuesIn continues, Bool.or_eq_true,
            hasOptionalMark_iff, shortCircuits_iff_of_continuesIn continues,
            any_shortCircuits_iff]
          intro base found
          exact inductionHypothesis base (List.mem_of_find?_eq_some found)
        · have ended := not_exists.mp continues
          simp [shortCircuits_of_ended bare ended,
            not_shortCircuits_of_ended ended]
      · rw [unwrap_of_parentheses kind first]
        exact inductionHypothesis inner below

end Site

/-! ## Keys -/

/-- A quotation mark of one of the two sorts around a key. -/
def isQuote (c : Char) : Bool :=
  c == '\'' || c == '"'

/-- A key is what is left of a text after all the quotation marks at its two
ends are taken away. -/
def StripsTo (text key : String) : Prop :=
  ∃ opening closing : List Char,
    text.toList = opening ++ key.toList ++ closing ∧
      (∀ c ∈ opening, isQuote c = true) ∧
      (∀ c ∈ closing, isQuote c = true) ∧
      (∀ c ∈ key.toList.head?, isQuote c = false) ∧
      (∀ c ∈ key.toList.getLast?, isQuote c = false)

theorem trimQuotes_eq_iff (text key : String) :
    trimQuotes text = key ↔ StripsTo text key :=
  Text.ofList_trimChars_eq_iff

/-- The key of an access that can be read off its source: the name after a dot,
or a string between brackets without its quotes. -/
inductive Node.HasKey : Node → String → Prop
  | property {access property : Node} :
      access.kind = "member_expression" →
      access.child? "property" = some property →
      HasKey access property.text
  | index {access index : Node} :
      access.kind = "subscript_expression" →
      access.child? "index" = some index →
      index.kind = "string" →
      HasKey access (unquoted index.text)

theorem Node.propertyKey?_eq_some_iff {access : Node}
    (kind : access.kind ∈ memberKinds) (key : String) :
    access.propertyKey? = some key ↔ access.HasKey key := by
  rw [memberKinds, List.mem_cons, List.mem_singleton] at kind
  constructor
  · intro found
    rw [propertyKey?] at found
    rcases kind with member | subscript
    · rw [member, if_pos (by rfl), Option.map_eq_some_iff] at found
      obtain ⟨property, isProperty, rfl⟩ := found
      exact .property member isProperty
    · rw [subscript, if_neg (by decide)] at found
      split at found
      · next index isIndex =>
          split at found
          · next literal =>
              obtain rfl := Option.some.inj found
              exact .index subscript isIndex (beq_iff_eq.mp literal)
          · cases found
      · cases found
  · rintro (⟨member, isProperty⟩ | ⟨subscript, isIndex, literal⟩)
    · simp [propertyKey?, member, isProperty]
    · simp [propertyKey?, subscript, isIndex, literal]

/-! ## Defaults around an access -/

/-- An entry of an object pattern that gives the property with a key a
default. -/
inductive Node.DefaultsKey : Node → String → Prop
  /-- An entry like `rate = 0`. -/
  | shorthand {entry left : Node} :
      entry.kind = "object_assignment_pattern" →
      entry.child? "left" = some left →
      DefaultsKey entry left.text
  /-- An entry like `rate: base = 0` or `'rate': base = 0`. -/
  | pair {entry name value : Node} {key : String} :
      entry.kind = "pair_pattern" →
      entry.child? "key" = some name →
      StripsTo name.text key →
      entry.child? "value" = some value →
      value.kind = "assignment_pattern" →
      DefaultsKey entry key

theorem Node.givesDefault_iff (entry : Node) (key : String) :
    entry.givesDefault key = true ↔ entry.DefaultsKey key := by
  constructor
  · intro gives
    rw [givesDefault] at gives
    split at gives
    · next shorthand =>
        split at gives
        · next left found =>
            obtain rfl := beq_iff_eq.mp gives
            exact .shorthand (beq_iff_eq.mp shorthand) found
        · cases gives
    split at gives
    · next pair =>
        split at gives
        · next name value nameFound valueFound =>
            rw [Bool.and_eq_true, beq_iff_eq, beq_iff_eq,
              trimQuotes_eq_iff] at gives
            exact .pair (beq_iff_eq.mp pair) nameFound gives.1 valueFound
              gives.2
        · cases gives
    · cases gives
  · rintro (⟨shorthand, found⟩ |
      ⟨pair, nameFound, strips, valueFound, assigned⟩)
    · simp [givesDefault, shorthand, found]
    · have trimmed := (trimQuotes_eq_iff _ key).mpr strips
      simp [givesDefault, pair, nameFound, valueFound, trimmed, assigned]

namespace Site

/-- The nearest declarator above a site. -/
def HasNearestDeclarator (site : Site) (declarator : Node) : Prop :=
  declarator.kind = "variable_declarator" ∧
    ∃ nearer farther,
      site.ancestors = nearer ++ declarator :: farther ∧
        ∀ node ∈ nearer, node.kind ≠ "variable_declarator"

theorem find?_declarator_iff (site : Site) (declarator : Node) :
    (site.ancestors.find? fun node => node.kind == "variable_declarator") =
        some declarator ↔
      site.HasNearestDeclarator declarator := by
  rw [List.find?_eq_some_iff_append, HasNearestDeclarator]
  simp

/-- An access whose property the nearest declarator takes apart with a
default. -/
def IsDefaulted (site : Site) : Prop :=
  ∃ key declarator pattern,
    site.node.HasKey key ∧
      site.HasNearestDeclarator declarator ∧
      declarator.child? "name" = some pattern ∧
      pattern.kind = "object_pattern" ∧
      ∃ entry ∈ pattern.namedChildren, entry.DefaultsKey key

theorem hasDestructuringDefault_iff {site : Site}
    (access : site.kind ∈ memberKinds) :
    site.hasDestructuringDefault = true ↔ site.IsDefaulted := by
  have keyIff := Node.propertyKey?_eq_some_iff access
  constructor
  · intro holds
    rw [hasDestructuringDefault] at holds
    split at holds
    · cases holds
    next key keyFound =>
    split at holds
    · cases holds
    next declarator declaratorFound =>
    split at holds
    · cases holds
    next pattern patternFound =>
    rw [Bool.and_eq_true, beq_iff_eq, List.any_eq_true] at holds
    obtain ⟨isPattern, entry, listed, gives⟩ := holds
    exact ⟨key, declarator, pattern, (keyIff key).mp keyFound,
      (site.find?_declarator_iff declarator).mp declaratorFound,
      patternFound, isPattern, entry, listed,
      (entry.givesDefault_iff key).mp gives⟩
  · rintro ⟨key, declarator, pattern, hasKey, nearest, patternFound,
      isPattern, entry, listed, defaults⟩
    have keyFound := (keyIff key).mpr hasKey
    have declaratorFound :=
      (site.find?_declarator_iff declarator).mpr nearest
    have gives : pattern.namedChildren.any (Node.givesDefault key) = true :=
      List.any_eq_true.mpr
        ⟨entry, listed, (entry.givesDefault_iff key).mpr defaults⟩
    simp [hasDestructuringDefault, keyFound, declaratorFound, patternFound,
      isPattern, gives]

end Site

/-! ## The verdict -/

namespace Verdict

variable (vocabulary : Vocabulary) (resolve : Site → Option Binding)

/-- No vocabulary and no binding has a say in the verdict on an access. -/
theorem ofArgument_of_access {site : Site}
    (access : site.kind ∈ memberKinds) :
    ofArgument vocabulary resolve site = ofAccess site := by
  have kinds := access
  rw [memberKinds, List.mem_cons, List.mem_singleton] at kinds
  simp only [ofArgument, Site.unwrap_of_access access, ofLeaf]
  rcases kinds with kind | kind
  · simp [kind, conditionalKind, memberKinds]
  · simp [kind, conditionalKind, memberKinds]

theorem ofAccess_guarded_iff {site : Site}
    (access : site.kind ∈ memberKinds) :
    (site.node.shortCircuits || site.hasDestructuringDefault) = true ↔
      site.ShortCircuits ∨ site.IsDefaulted := by
  have chain := site.shortCircuits_unwrap_iff
  rw [Site.unwrap_of_access access] at chain
  rw [Bool.or_eq_true, chain, Site.hasDestructuringDefault_iff access]

/-- A property access is harmless exactly when its chain short-circuits or the
declarator around it gives the property a default.  Otherwise it is graded low,
with two suggestions.  What names are bound to makes no difference. -/
theorem access_harmless_or_low {site : Site}
    (access : site.kind ∈ memberKinds) :
    (ofArgument vocabulary resolve site = .harmless ↔
        site.ShortCircuits ∨ site.IsDefaulted) ∧
      (¬ (site.ShortCircuits ∨ site.IsDefaulted) →
        (ofArgument vocabulary resolve site).level = .low ∧
          (ofArgument vocabulary resolve site).suggestions =
            [⟨"optional-chaining",
                [("object", ((site.node.child? "object").map Node.text).getD ""),
                  ("property", site.node.propertySuffix)]⟩,
              ⟨"coalesce-fallback", [("expression", site.text)]⟩]) ∧
      ∀ otherVocabulary otherResolve,
        ofArgument otherVocabulary otherResolve site =
          ofArgument vocabulary resolve site := by
  have guarded := ofAccess_guarded_iff access
  simp only [ofArgument_of_access _ _ access, ofAccess, ← guarded]
  split
  · next holds =>
      exact ⟨iff_of_true rfl holds, fun fails => absurd holds fails,
        fun _ _ => trivial⟩
  · next fails =>
      have risky : ofUnguardedAccess site.node ≠ .harmless := by
        intro same
        cases congrArg Risk.level same
      exact ⟨iff_of_false risky fails, fun _ => ⟨rfl, rfl⟩,
        fun _ _ => trivial⟩

/-- The access `item.rate`. -/
def itemRate : Node :=
  .node { kind := "member_expression", text := "item.rate" }
    [.node { kind := "identifier", field := some "object", text := "item" } [],
      .node
        { kind := "property_identifier", field := some "property",
          text := "rate" } []]

/-- The access `(item?.fee)().cap`. -/
def itemFeeCap : Node :=
  .node { kind := "member_expression" }
    [.node { kind := "call_expression", field := some "object" }
        [.node { kind := parenthesesKind, field := some "function" }
            [.node { kind := "member_expression" }
                [.node { kind := "identifier", field := some "object" } [],
                  .node { kind := "optional_chain" } [],
                  .node
                    { kind := "property_identifier",
                      field := some "property" } []]],
          .node { kind := "arguments", field := some "arguments" } []],
      .node { kind := "property_identifier", field := some "property" } []]

/-- The arguments in `{ 'rate': base = 0 } = compute(item.rate)`. -/
def computeArguments : Node :=
  .node { kind := "arguments", field := some "arguments" } [itemRate]

/-- The call in `{ 'rate': base = 0 } = compute(item.rate)`. -/
def computeCall : Node :=
  .node { kind := "call_expression", field := some "value" }
    [.node { kind := "identifier", field := some "function" } [],
      computeArguments]

/-- The declarator `{ 'rate': base = 0 } = compute(item.rate)`. -/
def rateDeclarator : Node :=
  .node { kind := "variable_declarator" }
    [.node { kind := "object_pattern", field := some "name" }
        [.node { kind := "pair_pattern" }
            [.node
                { kind := "string", field := some "key", text := "'rate'" } [],
              .node { kind := "assignment_pattern", field := some "value" }
                []]],
      computeCall]

/-- The access `item.rate` at its place in the declarator. -/
def declaredItemRate : Site :=
  ⟨[0, 1, 1], [computeArguments, computeCall, rateDeclarator], itemRate⟩

theorem access_itemFeeCap_and_itemRate :
    ofArgument ⟨[], []⟩ (fun _ => none) (Site.root itemFeeCap) = .harmless ∧
      ofArgument ⟨[], []⟩ (fun _ => none) declaredItemRate = .harmless ∧
      (ofArgument ⟨[], []⟩ (fun _ => none) (Site.root itemRate)).suggestions =
        [⟨"optional-chaining", [("object", "item"), ("property", "rate")]⟩,
          ⟨"coalesce-fallback", [("expression", "item.rate")]⟩] := by
  refine ⟨?_, ?_, ?_⟩
  · have isAccess : (Site.root itemFeeCap).kind ∈ memberKinds := by decide
    rw [(access_harmless_or_low ⟨[], []⟩ (fun _ => none) isAccess).1,
      ← ofAccess_guarded_iff isAccess]
    decide
  · have isAccess : declaredItemRate.kind ∈ memberKinds := by decide
    rw [(access_harmless_or_low ⟨[], []⟩ (fun _ => none) isAccess).1,
      ← ofAccess_guarded_iff isAccess]
    decide
  · have isAccess : (Site.root itemRate).kind ∈ memberKinds := by decide
    have rule :=
      (access_harmless_or_low ⟨[], []⟩ (fun _ => none) isAccess).2.1
    rw [← ofAccess_guarded_iff isAccess] at rule
    exact (rule (by decide)).2

end Verdict

end CallAudit
