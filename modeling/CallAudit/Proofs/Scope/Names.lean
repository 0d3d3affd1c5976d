import CallAudit.Proofs.Scope.Default
import Mathlib.Data.List.Sort
import Mathlib.Logic.Relation

/-!
# The names that a pattern reaches

A binding pattern leads to some of its children: to what stands before a default,
to the pattern for a property, to the members of a group or of a rest element,
and to the pattern of a parameter.  Keys, defaults and types are not among them.

The names of a pattern are the names reached in this way.  They are listed in
document order, so the list is determined by what is reached and does not depend
on the flag that the search starts with.
-/

namespace CallAudit

namespace Site

def IsBareName (site : Site) : Prop :=
  site.kind = "identifier" ∨ site.kind = "shorthand_property_identifier_pattern"

/-- A pattern leads to a child that may bind names for it. -/
inductive LeadsTo (pattern : Site) : Site → Prop
  | beforeDefault {left : Site} :
      pattern.kind = "assignment_pattern" ∨
        pattern.kind = "object_assignment_pattern" →
      pattern.child? "left" = some left →
      LeadsTo pattern left
  | ofProperty {value : Site} :
      pattern.kind = "pair_pattern" →
      pattern.child? "value" = some value →
      LeadsTo pattern value
  | member {child : Site} :
      pattern.kind = "rest_pattern" ∨ pattern.kind = "object_pattern" ∨
        pattern.kind = "array_pattern" →
      child ∈ pattern.namedChildren →
      LeadsTo pattern child
  | ofParameter {inner : Site} :
      pattern.kind = "required_parameter" ∨
        pattern.kind = "optional_parameter" →
      pattern.child? "pattern" = some inner →
      LeadsTo pattern inner

section Kinds

variable {site : Site}

theorem isPlainName_iff : site.node.isPlainName = true ↔ site.IsBareName := by
  simp [Node.isPlainName, IsBareName, Site.kind]

theorem isDefaultPattern_iff :
    site.node.isDefaultPattern = true ↔
      site.kind = "assignment_pattern" ∨
        site.kind = "object_assignment_pattern" := by
  simp [Node.isDefaultPattern, Site.kind]

theorem isGroupPattern_iff :
    site.node.isGroupPattern = true ↔
      site.kind = "object_pattern" ∨ site.kind = "array_pattern" := by
  simp [Node.isGroupPattern, Site.kind]

theorem isTypedParameter_iff :
    site.node.isTypedParameter = true ↔
      site.kind = "required_parameter" ∨ site.kind = "optional_parameter" := by
  simp [Node.isTypedParameter, Site.kind]

end Kinds

/-! ## Reaching names -/

theorem Binds.reaches {pattern : Site} {defaulted : Bool} {bound : BoundName}
    (binds : pattern.Binds defaulted bound) :
    bound.site.IsBareName ∧
      Relation.ReflTransGen LeadsTo pattern bound.site := by
  induction binds with
  | plain plain =>
      exact ⟨isPlainName_iff.mp plain, .refl⟩
  | beforeDefault default found _ inductionHypothesis =>
      have leads := LeadsTo.beforeDefault (isDefaultPattern_iff.mp default) found
      exact ⟨inductionHypothesis.1, .head leads inductionHypothesis.2⟩
  | renamed kind found _ inductionHypothesis =>
      have leads := LeadsTo.ofProperty kind found
      exact ⟨inductionHypothesis.1, .head leads inductionHypothesis.2⟩
  | rest kind named _ inductionHypothesis =>
      have leads := LeadsTo.member (Or.inl kind) named
      exact ⟨inductionHypothesis.1, .head leads inductionHypothesis.2⟩
  | grouped group named _ inductionHypothesis =>
      have leads := LeadsTo.member (Or.inr (isGroupPattern_iff.mp group)) named
      exact ⟨inductionHypothesis.1, .head leads inductionHypothesis.2⟩
  | typed typed found _ inductionHypothesis =>
      have leads := LeadsTo.ofParameter (isTypedParameter_iff.mp typed) found
      exact ⟨inductionHypothesis.1, .head leads inductionHypothesis.2⟩

/-- A name bound by a child that a pattern leads to is bound by the pattern,
whatever flag the search starts with. -/
theorem LeadsTo.exists_binds {pattern part name : Site}
    (leads : LeadsTo pattern part)
    (bound : ∀ defaulted, ∃ flag, part.Binds defaulted ⟨name, flag⟩)
    (defaulted : Bool) :
    ∃ flag, pattern.Binds defaulted ⟨name, flag⟩ := by
  cases leads with
  | beforeDefault kind found =>
      obtain ⟨flag, binds⟩ := bound (defaulted || part.node.isPlainName)
      exact ⟨flag, .beforeDefault (isDefaultPattern_iff.mpr kind) found binds⟩
  | ofProperty kind found =>
      obtain ⟨flag, binds⟩ := bound defaulted
      exact ⟨flag, .renamed kind found binds⟩
  | member kind named =>
      rcases kind with isRest | isGroup
      · obtain ⟨flag, binds⟩ := bound true
        exact ⟨flag, .rest isRest named binds⟩
      · obtain ⟨flag, binds⟩ := bound defaulted
        exact ⟨flag, .grouped (isGroupPattern_iff.mpr isGroup) named binds⟩
  | ofParameter kind found =>
      obtain ⟨flag, binds⟩ := bound
        (defaulted ||
          ((pattern.node.child? "value").isSome && part.node.isPlainName))
      exact ⟨flag, .typed (isTypedParameter_iff.mpr kind) found binds⟩

theorem exists_binds_of_reaches {pattern name : Site}
    (isName : name.IsBareName)
    (reaches : Relation.ReflTransGen LeadsTo pattern name) :
    ∀ defaulted, ∃ flag, pattern.Binds defaulted ⟨name, flag⟩ := by
  induction reaches using Relation.ReflTransGen.head_induction_on with
  | refl =>
      intro defaulted
      exact ⟨defaulted, .plain (isPlainName_iff.mpr isName)⟩
  | head leads _ inductionHypothesis =>
      exact leads.exists_binds inductionHypothesis

/-! ## The list of names -/

/-- The names that a pattern binds, without their flags. -/
def nameSites (pattern : Site) (defaulted : Bool) : List Site :=
  (pattern.boundNames defaulted).map BoundName.site

theorem mem_nameSites_iff {pattern name : Site} {defaulted : Bool} :
    name ∈ pattern.nameSites defaulted ↔
      name.IsBareName ∧ Relation.ReflTransGen LeadsTo pattern name := by
  rw [nameSites, List.mem_map]
  constructor
  · intro listed
    obtain ⟨bound, isBound, isName⟩ := listed
    rw [← isName]
    exact (mem_boundNames_iff.mp isBound).reaches
  · intro reached
    obtain ⟨flag, binds⟩ :=
      exists_binds_of_reaches reached.1 reached.2 defaulted
    exact ⟨⟨name, flag⟩, mem_boundNames_iff.mpr binds, rfl⟩

theorem nameSites_pairwise (pattern : Site) (defaulted : Bool) :
    (pattern.nameSites defaulted).Pairwise fun left right =>
      Path.Before left.path right.path :=
  (orderedBelow_boundNames pattern defaulted).ordered

/-- Two lists in document order with the same sites are equal, so the flag does
not matter. -/
theorem nameSites_eq (pattern : Site) (first second : Bool) :
    pattern.nameSites first = pattern.nameSites second := by
  have irreflexive : Std.Irrefl fun left right : Site =>
      Path.Before left.path right.path :=
    ⟨fun site => Path.before_irrefl site.path⟩
  have antisymmetric : Std.Antisymm fun left right : Site =>
      Path.Before left.path right.path :=
    ⟨fun _ _ before after => absurd after (Path.before_asymm before)⟩
  refine (nameSites_pairwise pattern first).eq_of_mem_iff
    (nameSites_pairwise pattern second) ?_
  intro name
  rw [mem_nameSites_iff, mem_nameSites_iff]

theorem defaulted_of_boundNames_true {pattern : Site} {bound : BoundName}
    (listed : bound ∈ pattern.boundNames true) : bound.defaulted = true := by
  obtain ⟨around, surrounds⟩ :=
    exists_surrounds pattern true bound (mem_boundNames_iff.mp listed)
  exact surrounds.flag_iff.mpr (Or.inl rfl)

/-- The names of a pattern are the bare names that it leads to, each of them
once and in document order.  They are the same for both flags, and all of them
are flagged when the search starts with the flag. -/
theorem nameSites_are_names_reached (pattern : Site) (defaulted : Bool) :
    (∀ name, name ∈ pattern.nameSites defaulted ↔
      name.IsBareName ∧ Relation.ReflTransGen LeadsTo pattern name) ∧
    (pattern.nameSites defaulted).Pairwise (fun left right =>
      Path.Before left.path right.path) ∧
    pattern.nameSites true = pattern.nameSites false ∧
    ∀ bound ∈ pattern.boundNames true, bound.defaulted = true := by
  refine ⟨fun name => mem_nameSites_iff, nameSites_pairwise pattern defaulted,
    nameSites_eq pattern true false, ?_⟩
  intro bound listed
  exact defaulted_of_boundNames_true listed

end Site

end CallAudit
