import CallAudit.Proofs.Scope.Pattern

/-!
# Defaults of the names in a pattern

A name of a pattern gets a value even when the matched value lacks one in three
places: directly before a default, directly in a rest element, and as the whole
of a typed parameter with a value (`Site.GivesDefault`).

The flag of a name says so, with one exception.  A rest element sets the flag
for everything below it, so that a name inside an array or object pattern in a
rest element passes for defaulted as well, although the pattern can fail to find
a value for it.
-/

namespace CallAudit

namespace Site

/-- The construct directly around a name, which gives the name a value in any
case. -/
inductive GivesDefault (holder name : Site) : Prop
  | beforeDefault :
      holder.node.isDefaultPattern = true →
      holder.child? "left" = some name →
      GivesDefault holder name
  | inRest :
      holder.kind = "rest_pattern" →
      name ∈ holder.namedChildren →
      GivesDefault holder name
  | beforeValue :
      holder.node.isTypedParameter = true →
      holder.child? "pattern" = some name →
      (holder.node.child? "value").isSome = true →
      GivesDefault holder name

/-- Of the constructs around a name, nearest first, the nearest gives it a
default. -/
def HasOwnDefault (around : List Site) (name : Site) : Prop :=
  ∃ holder ∈ around.head?, holder.GivesDefault name

/-- Of the constructs around a name, nearest first, one that is not the nearest
is a rest element. -/
def IsNestedInRest (around : List Site) : Prop :=
  ∃ outer ∈ around.tail, outer.kind = "rest_pattern"

section Around

variable {site name : Site} {around : List Site}

theorem hasOwnDefault_singleton :
    HasOwnDefault [site] name ↔ site.GivesDefault name := by
  simp [HasOwnDefault]

theorem not_isNestedInRest_singleton : ¬ IsNestedInRest [site] := by
  simp [IsNestedInRest]

theorem hasOwnDefault_concat_iff (filled : around ≠ []) :
    HasOwnDefault (around ++ [site]) name ↔ HasOwnDefault around name := by
  obtain ⟨nearest, others, rfl⟩ := List.exists_cons_of_ne_nil filled
  rfl

theorem isNestedInRest_concat_iff (filled : around ≠ []) :
    IsNestedInRest (around ++ [site]) ↔
      IsNestedInRest around ∨ site.kind = "rest_pattern" := by
  rw [IsNestedInRest, List.tail_append_of_ne_nil filled]
  simp only [List.mem_append, List.mem_singleton, or_and_right, exists_or,
    exists_eq_left, IsNestedInRest]

end Around

/-! ## One step into a pattern -/

/-- A part of a pattern that the search for names goes on with, and the flag it
goes on with. -/
structure PassesOn (site : Site) (defaulted : Bool) (part : Site)
    (flag : Bool) : Prop where
  below : part ∈ site.children
  inRest : site.kind = "rest_pattern" → site.GivesDefault part
  flag_iff : flag = true ↔
    defaulted = true ∨ site.kind = "rest_pattern" ∨
      (part.node.isPlainName = true ∧ site.GivesDefault part)

section Steps

variable {site part : Site} {defaulted : Bool}

/-- A part of a construct that gives no default goes on with the flag as it
is. -/
theorem passesOn_unchanged (below : part ∈ site.children)
    (notDefault : ¬ site.node.isDefaultPattern = true)
    (notRest : site.kind ≠ "rest_pattern")
    (notTyped : ¬ site.node.isTypedParameter = true) :
    PassesOn site defaulted part defaulted := by
  have nothing : ¬ site.GivesDefault part := by
    rintro (⟨default, _⟩ | ⟨isRest, _⟩ | ⟨typed, _, _⟩)
    · exact notDefault default
    · exact notRest isRest
    · exact notTyped typed
  refine ⟨below, fun isRest => absurd isRest notRest, ?_⟩
  simp [notRest, nothing]

theorem passesOn_pair (kind : site.kind = "pair_pattern")
    (found : site.child? "value" = some part) :
    PassesOn site defaulted part defaulted := by
  have nodeKind : site.node.kind = "pair_pattern" := kind
  apply passesOn_unchanged (List.mem_of_find?_eq_some found)
  · simp [Node.isDefaultPattern, nodeKind]
  · simp [kind]
  · simp [Node.isTypedParameter, nodeKind]

theorem passesOn_group (group : site.node.isGroupPattern = true)
    (named : part ∈ site.namedChildren) :
    PassesOn site defaulted part defaulted := by
  simp only [Node.isGroupPattern, Bool.or_eq_true, beq_iff_eq] at group
  apply passesOn_unchanged ((namedChildren_sublist site).subset named)
  all_goals
    rcases group with kind | kind <;>
      simp [Node.isDefaultPattern, Node.isTypedParameter, Site.kind, kind]

theorem passesOn_left (default : site.node.isDefaultPattern = true)
    (found : site.child? "left" = some part) :
    PassesOn site defaulted part (defaulted || part.node.isPlainName) := by
  have notRest : site.kind ≠ "rest_pattern" := by
    have kinds := default
    simp only [Node.isDefaultPattern, Bool.or_eq_true, beq_iff_eq] at kinds
    rcases kinds with kind | kind <;> simp [Site.kind, kind]
  have gives : site.GivesDefault part := .beforeDefault default found
  refine ⟨List.mem_of_find?_eq_some found, fun kind => absurd kind notRest, ?_⟩
  simp [notRest, gives]

theorem passesOn_rest (kind : site.kind = "rest_pattern")
    (named : part ∈ site.namedChildren) : PassesOn site defaulted part true :=
  ⟨(namedChildren_sublist site).subset named, fun _ => .inRest kind named,
    by simp [kind]⟩

theorem passesOn_typed (typed : site.node.isTypedParameter = true)
    (found : site.child? "pattern" = some part) :
    PassesOn site defaulted part
      (defaulted ||
        ((site.node.child? "value").isSome && part.node.isPlainName)) := by
  have kinds := typed
  simp only [Node.isTypedParameter, Bool.or_eq_true, beq_iff_eq] at kinds
  have notRest : site.kind ≠ "rest_pattern" := by
    rcases kinds with kind | kind <;> simp [Site.kind, kind]
  have gives : site.GivesDefault part ↔
      (site.node.child? "value").isSome = true := by
    constructor
    · rintro (⟨default, _⟩ | ⟨isRest, _⟩ | ⟨_, _, valued⟩)
      · rcases kinds with kind | kind <;>
          simp [Node.isDefaultPattern, kind] at default
      · exact absurd isRest notRest
      · exact valued
    · exact .beforeValue typed found
  refine ⟨List.mem_of_find?_eq_some found, fun isRest => absurd isRest notRest,
    ?_⟩
  rw [gives]
  simp [notRest, and_comm]

end Steps

/-- A bound name is the pattern itself or a name of a part of it. -/
theorem Binds.part_cases {site : Site} {defaulted : Bool} {bound : BoundName}
    (binds : site.Binds defaulted bound) :
    (site.node.isPlainName = true ∧ bound = ⟨site, defaulted⟩) ∨
      ∃ part flag, PassesOn site defaulted part flag ∧
        part.Binds flag bound := by
  cases binds with
  | plain plain =>
      exact Or.inl ⟨plain, rfl⟩
  | beforeDefault default found binds =>
      exact Or.inr ⟨_, _, passesOn_left default found, binds⟩
  | renamed kind found binds =>
      exact Or.inr ⟨_, _, passesOn_pair kind found, binds⟩
  | rest kind named binds =>
      exact Or.inr ⟨_, _, passesOn_rest kind named, binds⟩
  | grouped group named binds =>
      exact Or.inr ⟨_, _, passesOn_group group named, binds⟩
  | typed typed found binds =>
      exact Or.inr ⟨_, _, passesOn_typed typed found, binds⟩

theorem Binds.eq_of_plain {site : Site} {defaulted : Bool} {bound : BoundName}
    (binds : site.Binds defaulted bound)
    (plain : site.node.isPlainName = true) : bound = ⟨site, defaulted⟩ := by
  have listed := mem_boundNames_of_binds binds
  rw [boundNames_eq, if_pos plain] at listed
  exact List.mem_singleton.mp listed

/-! ## All steps -/

/-- The constructs between a pattern and a name that it binds, nearest to the
name first, and what they make of the flag. -/
structure Surrounds (pattern : Site) (defaulted : Bool) (bound : BoundName)
    (around : List Site) : Prop where
  above : bound.site.above = around ++ pattern.above
  plain : bound.site.node.isPlainName = true
  itself : around = [] → bound.site = pattern
  flag_iff : bound.defaulted = true ↔
    defaulted = true ∨ HasOwnDefault around bound.site ∨ IsNestedInRest around

/-- A pattern around a part adds itself as the outermost construct. -/
theorem Surrounds.out {site part : Site} {defaulted flag : Bool}
    {bound : BoundName} {around : List Site}
    (passes : PassesOn site defaulted part flag)
    (binds : part.Binds flag bound)
    (inner : Surrounds part flag bound around) :
    Surrounds site defaulted bound (around ++ [site]) := by
  refine ⟨?_, inner.plain, by simp, ?_⟩
  · rw [inner.above, above_of_mem_children passes.below, List.append_assoc,
      List.singleton_append]
  rw [inner.flag_iff, passes.flag_iff]
  by_cases alone : around = []
  · have isPart := inner.itself alone
    have plain : part.node.isPlainName = true := isPart ▸ inner.plain
    have restGives := passes.inRest
    rw [alone, List.nil_append, isPart, hasOwnDefault_singleton]
    have noOwn : ¬ HasOwnDefault [] part := by
      simp [HasOwnDefault]
    have notNested : ¬ IsNestedInRest [] := by
      simp [IsNestedInRest]
    simp only [plain, true_and, noOwn, notNested,
      not_isNestedInRest_singleton, or_false, or_iff_right_of_imp restGives]
  · -- The name lies deeper than the part, which is therefore no name.
    have notPlain : ¬ part.node.isPlainName = true := by
      intro plain
      obtain rfl := binds.eq_of_plain plain
      exact alone (List.append_left_eq_self.mp inner.above.symm)
    rw [hasOwnDefault_concat_iff alone, isNestedInRest_concat_iff alone]
    simp only [notPlain, Bool.false_eq_true, false_and, or_false]
    grind

theorem exists_surrounds (site : Site) :
    ∀ defaulted bound, site.Binds defaulted bound →
      ∃ around, Surrounds site defaulted bound around := by
  induction site using inductionOnChildren with
  | step site inductionHypothesis =>
      intro defaulted bound binds
      rcases binds.part_cases with
        ⟨plain, rfl⟩ | ⟨part, flag, passes, bindsPart⟩
      · refine ⟨[], rfl, plain, fun _ => rfl, ?_⟩
        simp [HasOwnDefault, IsNestedInRest]
      · obtain ⟨around, inner⟩ :=
          inductionHypothesis part passes.below flag bound bindsPart
        exact ⟨around ++ [site], inner.out passes bindsPart⟩

/-- The flag of a name that a pattern binds says whether the name has a default
of its own, unless the name lies deeper in a rest element: there the flag is set
in any case. -/
theorem defaulted_of_own_default_or_nested_rest
    {pattern : Site} {bound : BoundName}
    (listed : bound ∈ pattern.boundNames false) :
    ∃ around, bound.site.above = around ++ pattern.above ∧
      (¬ IsNestedInRest around →
        (bound.defaulted = true ↔ HasOwnDefault around bound.site)) ∧
      (IsNestedInRest around → bound.defaulted = true) := by
  obtain ⟨around, surrounds⟩ :=
    exists_surrounds pattern false bound (mem_boundNames_iff.mp listed)
  have flag := surrounds.flag_iff
  refine ⟨around, surrounds.above, ?_, ?_⟩
  · intro notNested
    rw [flag]
    simp [notNested]
  · intro nested
    exact flag.mpr (Or.inr (Or.inr nested))

/-- The pattern `[rate, fee = 0]`. -/
def ratesPattern : Node :=
  .node { kind := "array_pattern" }
    [.node { kind := "identifier", text := "rate" } [],
      .node { kind := "assignment_pattern" }
        [.node { kind := "identifier", field := some "left", text := "fee" } [],
          .node { kind := "number", field := some "right", text := "0" } []]]

/-- The pattern `...[rate, fee = 0]`. -/
def restOfRates : Node :=
  .node { kind := "rest_pattern" } [ratesPattern]

/-- The name `rate` in `...[rate, fee = 0]`. -/
def rateInRest : Site :=
  ⟨[0, 0], [ratesPattern, restOfRates],
    .node { kind := "identifier", text := "rate" } []⟩

/-- The name `fee` in `[rate, fee = 0]`. -/
def feeBeforeDefault : Site :=
  ⟨[0, 1],
    [.node { kind := "assignment_pattern" }
        [.node { kind := "identifier", field := some "left", text := "fee" } [],
          .node { kind := "number", field := some "right", text := "0" } []],
      ratesPattern],
    .node { kind := "identifier", field := some "left", text := "fee" } []⟩

/-- In `[rate, fee = 0]` the name `fee` has the flag and a default, and in
`...[rate, fee = 0]` the name `rate` has the flag and no default. -/
theorem defaulted_of_fee_and_rate_in_rest :
    (⟨feeBeforeDefault, true⟩ ∈ (Site.root ratesPattern).boundNames false ∧
        HasOwnDefault feeBeforeDefault.above feeBeforeDefault) ∧
      (⟨rateInRest, true⟩ ∈ (Site.root restOfRates).boundNames false ∧
        ¬ HasOwnDefault rateInRest.above rateInRest ∧
        IsNestedInRest rateInRest.above) := by
  have listedFee :
      ⟨feeBeforeDefault, true⟩ ∈ (Site.root ratesPattern).boundNames false :=
    List.mem_of_getElem? (i := 1) rfl
  have listedRate :
      ⟨rateInRest, true⟩ ∈ (Site.root restOfRates).boundNames false :=
    List.mem_of_getElem? (i := 0) rfl
  obtain ⟨aroundFee, aboveFee, ownFee, _⟩ :=
    defaulted_of_own_default_or_nested_rest listedFee
  obtain ⟨aroundRate, aboveRate, ownRate, _⟩ :=
    defaulted_of_own_default_or_nested_rest listedRate
  have rootAbove : ∀ tree : Node, (Site.root tree).above = [] := fun _ => rfl
  rw [rootAbove, List.append_nil] at aboveFee aboveRate
  rw [← aboveFee] at ownFee
  rw [← aboveRate] at ownRate
  have noOwn : ¬ HasOwnDefault rateInRest.above rateInRest := by
    rintro ⟨holder, isFirst, gives⟩
    obtain rfl := Option.some.inj isFirst
    rcases gives with ⟨default, _⟩ | ⟨isRest, _⟩ | ⟨typed, _, _⟩
    · exact absurd default (by decide)
    · exact absurd isRest (by decide)
    · exact absurd typed (by decide)
  have notNested : ¬ IsNestedInRest feeBeforeDefault.above := by
    rintro ⟨outer, listed, kind⟩
    obtain rfl := List.mem_singleton.mp listed
    exact absurd kind (by decide)
  refine ⟨⟨listedFee, (ownFee notNested).mp rfl⟩, listedRate, noOwn,
    Classical.byContradiction ?_⟩
  intro notNestedRate
  exact noOwn ((ownRate notNestedRate).mp rfl)

end Site

end CallAudit
