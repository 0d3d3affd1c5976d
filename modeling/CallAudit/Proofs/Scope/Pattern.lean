import CallAudit.Proofs.Tree.Order
import CallAudit.Scope.Pattern

/-!
# The names of a pattern, site by site

The names that a pattern binds come from its own site or from some of its
children.  This module says so in one equation on sites, and concludes that the
names are listed in document order and are those of the rules `Site.Binds`.
-/

namespace CallAudit

namespace Site

theorem find?_toList_sublist (wanted : Site → Bool) (sites : List Site) :
    (sites.find? wanted).toList.Sublist sites := by
  induction sites with
  | nil =>
      exact List.Sublist.refl []
  | cons site rest inductionHypothesis =>
      rw [List.find?_cons]
      split
      · simp
      · exact inductionHypothesis.cons site

theorem child?_toList_sublist (site : Site) (role : String) :
    (site.child? role).toList.Sublist site.children :=
  find?_toList_sublist _ _

theorem namedChildren_sublist (site : Site) :
    site.namedChildren.Sublist site.children :=
  List.filter_sublist

/-! ## Patterns and their parts -/

theorem boundNamesIn_eq_flatMap
    (path : Path) (ancestors : List Node) (role : String)
    (rule : Node → Bool) (first : Nat) (nodes : List Node) :
    boundNamesIn path ancestors role rule first nodes =
      ((siblings path ancestors first nodes).find? fun child =>
        child.node.field == some role).toList.flatMap fun child =>
          child.boundNames (rule child.node) := by
  induction nodes generalizing first with
  | nil =>
      rfl
  | cons node rest inductionHypothesis =>
      rw [boundNamesIn, siblings, List.find?_cons]
      cases hasRole : node.field == some role with
      | true =>
          simp [boundNames]
      | false =>
          simpa using inductionHypothesis (first + 1)

theorem boundNamesAmong_eq_flatMap
    (path : Path) (ancestors : List Node) (defaulted : Bool)
    (first : Nat) (nodes : List Node) :
    boundNamesAmong path ancestors defaulted first nodes =
      ((siblings path ancestors first nodes).filter fun child =>
        child.node.named).flatMap fun child =>
          child.boundNames defaulted := by
  induction nodes generalizing first with
  | nil =>
      rfl
  | cons node rest inductionHypothesis =>
      rw [boundNamesAmong, siblings, List.filter_cons,
        inductionHypothesis (first + 1)]
      cases node.named with
      | true =>
          simp [boundNames]
      | false =>
          simp

/-- The names of a pattern, from the names of its parts. -/
theorem boundNames_eq (site : Site) (defaulted : Bool) :
    site.boundNames defaulted =
      if site.node.isPlainName then
        [⟨site, defaulted⟩]
      else if site.node.isDefaultPattern then
        (site.child? "left").toList.flatMap fun left =>
          left.boundNames (defaulted || left.node.isPlainName)
      else if site.kind == "pair_pattern" then
        (site.child? "value").toList.flatMap fun value =>
          value.boundNames defaulted
      else if site.kind == "rest_pattern" then
        site.namedChildren.flatMap fun child => child.boundNames true
      else if site.node.isGroupPattern then
        site.namedChildren.flatMap fun child => child.boundNames defaulted
      else if site.node.isTypedParameter then
        (site.child? "pattern").toList.flatMap fun inner =>
          inner.boundNames
            (defaulted ||
              ((site.node.child? "value").isSome && inner.node.isPlainName))
      else
        [] := by
  obtain ⟨path, ancestors, node⟩ := site
  cases node with
  | node label nodes =>
      rw [boundNames, Node.boundNamesAt]
      simp only [boundNamesIn_eq_flatMap, boundNamesAmong_eq_flatMap]
      rfl

/-- Names collected from parts of a pattern are in document order when those
of each part are. -/
theorem orderedBelow_boundNames_flatMap
    {site : Site} {chosen : List Site} {rule : Site → Bool}
    (part : chosen.Sublist site.children)
    (each : ∀ child ∈ site.children, ∀ defaulted,
      OrderedBelow child.path
        ((child.boundNames defaulted).map BoundName.site)) :
    OrderedBelow site.path
      ((chosen.flatMap fun child => child.boundNames (rule child)).map
        BoundName.site) := by
  rw [List.map_flatMap]
  apply orderedBelow_flatMap part
  intro child member
  exact each child (part.subset member) (rule child)

/-- The names of a pattern lie inside it and are listed in document order. -/
theorem orderedBelow_boundNames (site : Site) :
    ∀ defaulted,
      OrderedBelow site.path
        ((site.boundNames defaulted).map BoundName.site) := by
  induction site using inductionOnChildren with
  | step site inductionHypothesis =>
      intro defaulted
      rw [boundNames_eq]
      split
      · exact OrderedBelow.singleton (List.nil_append site.path).symm
      split
      · exact orderedBelow_boundNames_flatMap
          (child?_toList_sublist site "left") inductionHypothesis
      split
      · exact orderedBelow_boundNames_flatMap
          (child?_toList_sublist site "value") inductionHypothesis
      split
      · exact orderedBelow_boundNames_flatMap
          (namedChildren_sublist site) inductionHypothesis
      split
      · exact orderedBelow_boundNames_flatMap
          (namedChildren_sublist site) inductionHypothesis
      split
      · exact orderedBelow_boundNames_flatMap
          (child?_toList_sublist site "pattern") inductionHypothesis
      · exact OrderedBelow.nil site.path

/-! ## The rules -/

/-- A pattern binds a name; whether the pattern has a value in any case is known
from outside. -/
inductive Binds : Site → Bool → BoundName → Prop
  /-- A bare name. -/
  | plain {site : Site} {defaulted : Bool} :
      site.node.isPlainName = true → Binds site defaulted ⟨site, defaulted⟩
  /-- A name in the pattern before a default, which counts for a bare name. -/
  | beforeDefault {site left : Site} {defaulted : Bool} {bound : BoundName} :
      site.node.isDefaultPattern = true →
      site.child? "left" = some left →
      Binds left (defaulted || left.node.isPlainName) bound →
      Binds site defaulted bound
  /-- A name in the pattern for a property. -/
  | renamed {site value : Site} {defaulted : Bool} {bound : BoundName} :
      site.kind = "pair_pattern" →
      site.child? "value" = some value →
      Binds value defaulted bound →
      Binds site defaulted bound
  /-- A name for all that is left, which has a value in any case. -/
  | rest {site child : Site} {defaulted : Bool} {bound : BoundName} :
      site.kind = "rest_pattern" →
      child ∈ site.namedChildren →
      Binds child true bound →
      Binds site defaulted bound
  /-- A name in one of several patterns. -/
  | grouped {site child : Site} {defaulted : Bool} {bound : BoundName} :
      site.node.isGroupPattern = true →
      child ∈ site.namedChildren →
      Binds child defaulted bound →
      Binds site defaulted bound
  /-- A name in a parameter that may carry a type; its default counts for a
  bare name. -/
  | typed {site inner : Site} {defaulted : Bool} {bound : BoundName} :
      site.node.isTypedParameter = true →
      site.child? "pattern" = some inner →
      Binds inner
        (defaulted ||
          ((site.node.child? "value").isSome && inner.node.isPlainName))
        bound →
      Binds site defaulted bound

section Kinds

variable {site : Site}

theorem boundNames_of_default (default : site.node.isDefaultPattern = true)
    (defaulted : Bool) :
    site.boundNames defaulted =
      (site.child? "left").toList.flatMap fun left =>
        left.boundNames (defaulted || left.node.isPlainName) := by
  have kinds := default
  simp only [Node.isDefaultPattern, Bool.or_eq_true, beq_iff_eq] at kinds
  rw [boundNames_eq, if_neg, if_pos default]
  rcases kinds with kind | kind <;> simp [Node.isPlainName, kind]

theorem boundNames_of_pair (kind : site.kind = "pair_pattern")
    (defaulted : Bool) :
    site.boundNames defaulted =
      (site.child? "value").toList.flatMap fun value =>
        value.boundNames defaulted := by
  have nodeKind : site.node.kind = "pair_pattern" := kind
  rw [boundNames_eq, if_neg, if_neg, if_pos (beq_iff_eq.mpr kind)]
  · simp [Node.isDefaultPattern, nodeKind]
  · simp [Node.isPlainName, nodeKind]

theorem boundNames_of_rest (kind : site.kind = "rest_pattern")
    (defaulted : Bool) :
    site.boundNames defaulted =
      site.namedChildren.flatMap fun child => child.boundNames true := by
  have nodeKind : site.node.kind = "rest_pattern" := kind
  rw [boundNames_eq, if_neg, if_neg, if_neg, if_pos (beq_iff_eq.mpr kind)]
  · simp [kind]
  · simp [Node.isDefaultPattern, nodeKind]
  · simp [Node.isPlainName, nodeKind]

theorem boundNames_of_group (group : site.node.isGroupPattern = true)
    (defaulted : Bool) :
    site.boundNames defaulted =
      site.namedChildren.flatMap fun child =>
        child.boundNames defaulted := by
  have kinds := group
  simp only [Node.isGroupPattern, Bool.or_eq_true, beq_iff_eq] at kinds
  rw [boundNames_eq, if_neg, if_neg, if_neg, if_neg, if_pos group]
  all_goals
    rcases kinds with kind | kind <;>
      simp [Node.isPlainName, Node.isDefaultPattern, Site.kind, kind]

theorem boundNames_of_typed (typed : site.node.isTypedParameter = true)
    (defaulted : Bool) :
    site.boundNames defaulted =
      (site.child? "pattern").toList.flatMap fun inner =>
        inner.boundNames
          (defaulted ||
            ((site.node.child? "value").isSome && inner.node.isPlainName)) := by
  have kinds := typed
  simp only [Node.isTypedParameter, Bool.or_eq_true, beq_iff_eq] at kinds
  rw [boundNames_eq, if_neg, if_neg, if_neg, if_neg, if_neg, if_pos typed]
  all_goals
    rcases kinds with kind | kind <;>
      simp [Node.isPlainName, Node.isDefaultPattern, Node.isGroupPattern,
        Site.kind, kind]

end Kinds

theorem binds_of_mem_boundNames (site : Site) :
    ∀ defaulted, ∀ bound ∈ site.boundNames defaulted,
      site.Binds defaulted bound := by
  induction site using inductionOnChildren with
  | step site inductionHypothesis =>
      have ofChild? : ∀ {role : String} {child : Site},
          child ∈ (site.child? role).toList → child ∈ site.children :=
        fun found => (child?_toList_sublist site _).subset found
      intro defaulted bound listed
      rw [boundNames_eq] at listed
      split at listed
      · next plain =>
          obtain rfl := List.mem_singleton.mp listed
          exact .plain plain
      split at listed
      · next default =>
          obtain ⟨left, found, listed⟩ := List.mem_flatMap.mp listed
          exact .beforeDefault default (Option.mem_toList.mp found)
            (inductionHypothesis left (ofChild? found) _ bound listed)
      split at listed
      · next kind =>
          obtain ⟨value, found, listed⟩ := List.mem_flatMap.mp listed
          exact .renamed (beq_iff_eq.mp kind) (Option.mem_toList.mp found)
            (inductionHypothesis value (ofChild? found) _ bound listed)
      split at listed
      · next kind =>
          obtain ⟨child, named, listed⟩ := List.mem_flatMap.mp listed
          have below := (namedChildren_sublist site).subset named
          exact .rest (beq_iff_eq.mp kind) named
            (inductionHypothesis child below _ bound listed)
      split at listed
      · next group =>
          obtain ⟨child, named, listed⟩ := List.mem_flatMap.mp listed
          have below := (namedChildren_sublist site).subset named
          exact .grouped group named
            (inductionHypothesis child below _ bound listed)
      split at listed
      · next parameter =>
          obtain ⟨inner, found, listed⟩ := List.mem_flatMap.mp listed
          exact .typed parameter (Option.mem_toList.mp found)
            (inductionHypothesis inner (ofChild? found) _ bound listed)
      · simp at listed

theorem mem_boundNames_of_binds {site : Site} {defaulted : Bool}
    {bound : BoundName} (binds : site.Binds defaulted bound) :
    bound ∈ site.boundNames defaulted := by
  induction binds with
  | plain plain =>
      rw [boundNames_eq, if_pos plain]
      exact List.mem_singleton_self _
  | beforeDefault default found _ inductionHypothesis =>
      rw [boundNames_of_default default, found]
      exact List.mem_flatMap.mpr
        ⟨_, List.mem_singleton_self _, inductionHypothesis⟩
  | renamed kind found _ inductionHypothesis =>
      rw [boundNames_of_pair kind, found]
      exact List.mem_flatMap.mpr
        ⟨_, List.mem_singleton_self _, inductionHypothesis⟩
  | rest kind named _ inductionHypothesis =>
      rw [boundNames_of_rest kind]
      exact List.mem_flatMap.mpr ⟨_, named, inductionHypothesis⟩
  | grouped group named _ inductionHypothesis =>
      rw [boundNames_of_group group]
      exact List.mem_flatMap.mpr ⟨_, named, inductionHypothesis⟩
  | typed parameter found _ inductionHypothesis =>
      rw [boundNames_of_typed parameter, found]
      exact List.mem_flatMap.mpr
        ⟨_, List.mem_singleton_self _, inductionHypothesis⟩

/-- The names listed for a pattern are those that it binds by the rules. -/
theorem mem_boundNames_iff {site : Site} {defaulted : Bool}
    {bound : BoundName} :
    bound ∈ site.boundNames defaulted ↔ site.Binds defaulted bound :=
  ⟨binds_of_mem_boundNames site defaulted bound, mem_boundNames_of_binds⟩

end Site

end CallAudit
