import CallAudit.Proofs.Outcome
import CallAudit.Proofs.Risk.Leaf
import CallAudit.Risk.Verdict

/-!
# What a verdict can be

* An argument is judged gravest exactly when one of its leaves is a name
  without a binding.
* Every suggestion of a verdict carries the parameters of its template, which
  is what it takes to be shown.
-/

namespace CallAudit

/-! ## The gravest level -/

namespace Level

theorem join_eq_high_iff (left right : Level) :
    join left right = .high ↔ left = .high ∨ right = .high := by
  cases left <;> cases right <;> decide

theorem foldl_join_eq_high_iff (levels : List Level) (level : Level) :
    levels.foldl join level = .high ↔ level = .high ∨ .high ∈ levels := by
  induction levels generalizing level with
  | nil =>
      simp
  | cons head rest inductionHypothesis =>
      rw [List.foldl_cons, inductionHypothesis, join_eq_high_iff,
        List.mem_cons, or_assoc, eq_comm (a := head)]

theorem joinAll_eq_high_iff (levels : List Level) :
    joinAll levels = .high ↔ .high ∈ levels := by
  rw [joinAll, foldl_join_eq_high_iff]
  simp

end Level

/-- A name in an expression: `undefined` is one of its own kind. -/
def Site.IsName (site : Site) : Prop :=
  site.kind = "identifier" ∨ site.kind = "undefined"

namespace Verdict

variable (vocabulary : Vocabulary) (resolve : Site → Option Binding)

theorem ofName_level_eq_high_iff (name : String) (binding : Option Binding) :
    (ofName name binding).level = .high ↔ binding = none := by
  cases binding with
  | none =>
      simp [ofName]
  | some binding =>
      rw [ofName]
      split
      · simp
      split
      · simp
      · simp [Risk.harmless]

theorem ofAccess_level_ne_high (site : Site) :
    (ofAccess site).level ≠ .high := by
  rw [ofAccess]
  split
  · simp [Risk.harmless]
  · simp [ofUnguardedAccess]

theorem ofCall_level_ne_high (call : Node) :
    (ofCall vocabulary call).level ≠ .high := by
  rw [ofCall]
  split
  · simp [Risk.harmless]
  split
  · simp [Risk.harmless]
  split
  · simp [Risk.harmless]
  split
  · simp
  · simp [Risk.harmless]

/-- A leaf is judged gravest exactly when it is a name without a binding. -/
theorem ofLeaf_level_eq_high_iff (site : Site) :
    (ofLeaf vocabulary resolve site).level = .high ↔
      site.IsName ∧ resolve site = none := by
  rw [ofLeaf]
  split
  · next literal =>
      have other : ¬ site.IsName := by
        simp only [Bool.or_eq_true, beq_iff_eq] at literal
        rcases literal with kind | kind <;> simp [Site.IsName, kind]
      simp [Risk.harmless, other]
  split
  · next isName =>
      have named : site.IsName := by
        simpa [Site.IsName] using isName
      simp [ofName_level_eq_high_iff, named]
  next notName =>
  have other : ¬ site.IsName := by
    simpa [Site.IsName] using notName
  split
  · simp [ofAccess_level_ne_high, other]
  split
  · simp [ofCall_level_ne_high, other]
  · simp [other]

theorem ofBranches_level (risks : List Risk) :
    (ofBranches risks).level = Level.joinAll (risks.map Risk.level) := by
  rw [ofBranches]
  split
  · next harmless =>
      exact harmless.symm
  · rfl

theorem ofBranches_level_eq_high_iff (risks : List Risk) :
    (ofBranches risks).level = .high ↔
      ∃ risk ∈ risks, risk.level = .high := by
  have joined := Level.joinAll_eq_high_iff (risks.map Risk.level)
  rw [List.mem_map] at joined
  rw [ofBranches, ← joined]
  split
  · next harmless =>
      simp [Risk.harmless, harmless]
  · rfl

/-- An argument is judged gravest exactly when one of its leaves is a name
without a binding. -/
theorem ofArgument_level_eq_high_iff (argument : Site) :
    (ofArgument vocabulary resolve argument).level = .high ↔
      ∃ leaf, argument.HasLeaf leaf ∧ leaf.IsName ∧ resolve leaf = none := by
  have sameLeaves := fun leaf => Site.hasLeaf_unwrap_iff argument leaf
  simp only [ofArgument]
  split
  · rw [ofBranches_level_eq_high_iff]
    constructor
    · rintro ⟨risk, listed, grave⟩
      obtain ⟨leaf, isLeaf, rfl⟩ := List.mem_map.mp listed
      rw [Site.mem_leaves_iff, sameLeaves] at isLeaf
      exact ⟨leaf, isLeaf,
        (ofLeaf_level_eq_high_iff vocabulary resolve leaf).mp grave⟩
    · rintro ⟨leaf, isLeaf, unbound⟩
      rw [← sameLeaves, ← Site.mem_leaves_iff] at isLeaf
      exact ⟨_, List.mem_map_of_mem isLeaf,
        (ofLeaf_level_eq_high_iff vocabulary resolve leaf).mpr unbound⟩
  · next other =>
      have kind : argument.unwrap.kind ≠ conditionalKind := by
        simpa using other
      simp only [ofLeaf_level_eq_high_iff, ← sameLeaves,
        Site.hasLeaf_itself_iff kind argument.unwrap_bare, exists_eq_left]

end Verdict

/-! ## Suggestions -/

namespace Suggestion

/-- A suggestion that can be shown. -/
def Renders (suggestion : Suggestion) : Prop :=
  ∃ text, suggestion.render = .ok text

/-- A suggestion with a parameter for every slot of its template. -/
def IsFilled (suggestion : Suggestion) : Prop :=
  ∀ pieces, pieces? suggestion.template = some pieces →
    ∀ parameter, .slot parameter ∈ pieces →
      parameter ∈ suggestion.params.map Prod.fst

theorem mem_names_setParam
    (params : List (String × String)) (entry : String × String)
    (name : String) :
    name ∈ (setParam params entry).map Prod.fst ↔
      name ∈ params.map Prod.fst ∨ name = entry.1 := by
  rw [setParam]
  split
  · next known =>
      -- The entry takes the place of one of the same name.
      have sameNames :
          (params.map fun old => if old.1 == entry.1 then entry else old).map
            Prod.fst = params.map Prod.fst := by
        rw [List.map_map]
        apply List.map_congr_left
        intro old _
        rw [Function.comp_apply]
        split
        · next same =>
            exact (beq_iff_eq.mp same).symm
        · rfl
      rw [sameNames, iff_self_or]
      rintro rfl
      obtain ⟨old, listed, same⟩ := List.any_eq_true.mp known
      exact List.mem_map.mpr ⟨old, listed, beq_iff_eq.mp same⟩
  · rw [List.map_append, List.mem_append, List.map_singleton,
      List.mem_singleton]

theorem mem_names_foldl_setParam (name : String) :
    ∀ entries params : List (String × String),
      name ∈ (entries.foldl setParam params).map Prod.fst ↔
        name ∈ params.map Prod.fst ∨ name ∈ entries.map Prod.fst
  | [], params => by simp
  | entry :: rest, params => by
      rw [List.foldl_cons, mem_names_foldl_setParam name rest,
        mem_names_setParam, List.map_cons, List.mem_cons, or_assoc]

/-- Settling the parameters loses no name. -/
theorem mem_names_settledParams (suggestion : Suggestion) (name : String) :
    name ∈ suggestion.settledParams.map Prod.fst ↔
      name ∈ suggestion.params.map Prod.fst := by
  rw [settledParams, mem_names_foldl_setParam]
  simp

theorem succeeds_renderPiece_iff
    (params : List (String × String)) (piece : TemplatePiece) :
    Succeeds (renderPiece params piece) ↔
      ∀ parameter, piece = .slot parameter →
        parameter ∈ params.map Prod.fst := by
  cases piece with
  | fixed text =>
      simp [renderPiece, Succeeds]
  | slot parameter =>
      have listed : parameter ∈ params.map Prod.fst ↔
          (params.lookup parameter).isSome = true := by
        simp only [List.lookup_isSome_iff, List.mem_map, beq_iff_eq,
          eq_comm (a := parameter)]
      simp only [TemplatePiece.slot.injEq, forall_eq', listed]
      cases found : params.lookup parameter <;>
        simp [renderPiece, Succeeds, found]

/-- A suggestion can be shown exactly when every slot of its template has a
parameter. -/
theorem renders_iff_isFilled (suggestion : Suggestion) :
    suggestion.Renders ↔ suggestion.IsFilled := by
  rw [Renders, render, IsFilled]
  cases pieces? suggestion.template with
  | none =>
      simp
  | some pieces =>
      simp only [Option.some.injEq, forall_eq']
      constructor
      · intro shown parameter slot
        have each := Succeeds.of_mapM (Succeeds.of_map shown) _ slot
        rw [succeeds_renderPiece_iff] at each
        exact (mem_names_settledParams suggestion parameter).mp
          (each parameter rfl)
      · intro filled
        refine (Succeeds.mapM pieces ?_).map String.join
        rintro piece listed
        rw [succeeds_renderPiece_iff]
        rintro parameter rfl
        exact (mem_names_settledParams suggestion parameter).mpr
          (filled parameter listed)

end Suggestion

/-- A verdict all of whose suggestions can be shown. -/
def Risk.Renders (risk : Risk) : Prop :=
  ∀ suggestion ∈ risk.suggestions, suggestion.Renders

namespace Verdict

variable (vocabulary : Vocabulary) (resolve : Site → Option Binding)

theorem harmless_renders : Risk.harmless.Renders := by
  intro suggestion listed
  simp [Risk.harmless] at listed

theorem ofName_renders (name : String) (binding : Option Binding) :
    (ofName name binding).Renders := by
  cases binding with
  | none =>
      intro suggestion listed
      obtain rfl := List.mem_singleton.mp listed
      exact ⟨_, rfl⟩
  | some binding =>
      rw [ofName]
      split
      · intro suggestion listed
        obtain rfl := List.mem_singleton.mp listed
        exact ⟨_, rfl⟩
      split
      · intro suggestion listed
        obtain rfl := List.mem_singleton.mp listed
        exact ⟨_, rfl⟩
      · exact harmless_renders

theorem ofAccess_renders (site : Site) : (ofAccess site).Renders := by
  rw [ofAccess]
  split
  · exact harmless_renders
  · intro suggestion listed
    simp only [ofUnguardedAccess, List.mem_cons, List.not_mem_nil,
      or_false] at listed
    rcases listed with rfl | rfl
    · exact ⟨_, rfl⟩
    · exact ⟨_, rfl⟩

theorem ofCall_renders (call : Node) : (ofCall vocabulary call).Renders := by
  rw [ofCall]
  split
  · exact harmless_renders
  split
  · exact harmless_renders
  split
  · exact harmless_renders
  split
  · intro suggestion listed
    obtain rfl := List.mem_singleton.mp listed
    exact ⟨_, rfl⟩
  · exact harmless_renders

theorem ofLeaf_renders (site : Site) :
    (ofLeaf vocabulary resolve site).Renders := by
  rw [ofLeaf]
  split
  · exact harmless_renders
  split
  · exact ofName_renders _ _
  split
  · exact ofAccess_renders site
  split
  · exact ofCall_renders vocabulary site.node
  · intro suggestion listed
    simp at listed

/-- Every suggestion of a verdict can be shown. -/
theorem ofArgument_renders (argument : Site) :
    (ofArgument vocabulary resolve argument).Renders := by
  simp only [ofArgument]
  split
  · rw [ofBranches]
    split
    · exact harmless_renders
    · intro suggestion listed
      obtain ⟨risk, riskListed, inside⟩ := List.mem_flatMap.mp listed
      obtain ⟨leaf, _, rfl⟩ := List.mem_map.mp riskListed
      exact ofLeaf_renders vocabulary resolve leaf suggestion inside
  · exact ofLeaf_renders vocabulary resolve argument.unwrap

end Verdict

end CallAudit
