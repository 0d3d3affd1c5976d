import CallAudit.Proofs.Issue.Findings
import CallAudit.Proofs.Risk.Verdict
import Mathlib.Data.List.Flatten

/-!
# Stricter vocabularies

A vocabulary is stricter than another one when it watches at least the same
functions and trusts no more of them.  The two sets of names act in two places:
they select the calls to audit, and they decide the verdict on a call that is an
argument or a branch of one.  In both places a stricter vocabulary finds at least
as much, so no finding is hidden by it.
-/

namespace CallAudit

/-! ## The order of levels -/

namespace Level

theorem le_trans {first second third : Level}
    (lower : first ≤ second) (upper : second ≤ third) : first ≤ third :=
  Nat.le_trans lower upper

theorem le_refl (level : Level) : level ≤ level :=
  Nat.le_refl level.rank

theorem none_le (level : Level) : .none ≤ level :=
  Nat.zero_le level.rank

theorem join_le_iff {left right bound : Level} :
    join left right ≤ bound ↔ left ≤ bound ∧ right ≤ bound := by
  rw [join]
  split
  · next order =>
      constructor
      · intro below
        exact ⟨le_trans order below, below⟩
      · exact And.right
  · next order =>
      have opposite : right ≤ left := by
        have ranks : ¬ left.rank ≤ right.rank := order
        show right.rank ≤ left.rank
        omega
      constructor
      · intro below
        exact ⟨below, le_trans opposite below⟩
      · exact And.left

theorem foldl_join_le_iff (levels : List Level) {level bound : Level} :
    levels.foldl join level ≤ bound ↔
      level ≤ bound ∧ ∀ other ∈ levels, other ≤ bound := by
  induction levels generalizing level with
  | nil =>
      simp
  | cons head rest inductionHypothesis =>
      rw [List.foldl_cons, inductionHypothesis, join_le_iff,
        List.forall_mem_cons, and_assoc]

/-- The gravest level of a list is its least upper bound. -/
theorem joinAll_le_iff {levels : List Level} {bound : Level} :
    joinAll levels ≤ bound ↔ ∀ level ∈ levels, level ≤ bound := by
  rw [joinAll, foldl_join_le_iff]
  exact and_iff_right (none_le bound)

theorem le_joinAll {levels : List Level} {level : Level}
    (listed : level ∈ levels) : level ≤ joinAll levels :=
  joinAll_le_iff.mp (le_refl _) level listed

theorem ne_none_of_le {lower upper : Level}
    (order : lower ≤ upper) (risky : lower ≠ .none) : upper ≠ .none := by
  rintro rfl
  exact Level.not_le_none_iff.mpr risky order

end Level

/-! ## Verdicts -/

/-- A vocabulary that watches at least the functions of another one and trusts
only functions that the other one trusts. -/
structure Vocabulary.IsStricter (strict lax : Vocabulary) : Prop where
  watched : lax.watched ⊆ strict.watched
  safe : strict.safe ⊆ lax.safe

namespace Verdict

variable {lax strict : Vocabulary} (resolve : Site → Option Binding)

theorem harmless_level_le (risk : Risk) : Risk.harmless.level ≤ risk.level :=
  Level.none_le risk.level

/-- A call that is risky under a vocabulary is risky under a stricter one. -/
theorem ofCall_level_le (stricter : strict.IsStricter lax) (call : Node) :
    (ofCall lax call).level ≤ (ofCall strict call).level := by
  rw [ofCall, ofCall]
  cases call.child? "function" with
  | none =>
      exact Level.le_refl _
  | some callee =>
      by_cases isName : callee.kind = "identifier"
      · by_cases trusted : callee.text ∈ lax.safe
        · simpa [isName, trusted] using harmless_level_le _
        · have distrusted : callee.text ∉ strict.safe :=
            fun listed => trusted (stricter.safe listed)
          by_cases watched : callee.text ∈ lax.watched
          · have stillWatched := stricter.watched watched
            simpa [isName, trusted, distrusted, watched, stillWatched] using
              Level.le_refl _
          · simpa [isName, trusted, watched] using harmless_level_le _
      · simpa [isName] using Level.le_refl _

theorem ofLeaf_level_le (stricter : strict.IsStricter lax) (leaf : Site) :
    (ofLeaf lax resolve leaf).level ≤ (ofLeaf strict resolve leaf).level := by
  rw [ofLeaf, ofLeaf]
  -- Only the rule for calls looks at the vocabulary.
  split
  · exact Level.le_refl _
  split
  · exact Level.le_refl _
  split
  · exact Level.le_refl _
  split
  · exact ofCall_level_le stricter leaf.node
  · exact Level.le_refl _

theorem ofBranches_level_le {leaves : List Site} {lower upper : Site → Risk}
    (each : ∀ leaf ∈ leaves, (lower leaf).level ≤ (upper leaf).level) :
    (ofBranches (leaves.map lower)).level ≤
      (ofBranches (leaves.map upper)).level := by
  rw [ofBranches_level, ofBranches_level, Level.joinAll_le_iff]
  intro level listed
  rw [List.map_map, List.mem_map] at listed
  obtain ⟨leaf, member, rfl⟩ := listed
  have upperListed : (upper leaf).level ∈
      (leaves.map upper).map Risk.level :=
    List.mem_map_of_mem (List.mem_map_of_mem member)
  exact Level.le_trans (each leaf member) (Level.le_joinAll upperListed)

/-- No verdict gets milder under a stricter vocabulary. -/
theorem ofArgument_level_le (stricter : strict.IsStricter lax)
    (argument : Site) :
    (ofArgument lax resolve argument).level ≤
      (ofArgument strict resolve argument).level := by
  simp only [ofArgument]
  split
  · apply ofBranches_level_le
    intro leaf _
    exact ofLeaf_level_le resolve stricter leaf
  · exact ofLeaf_level_le resolve stricter argument.unwrap

end Verdict

/-! ## Findings -/

theorem Site.watchedCallee?_of_subset {watched wider : List String}
    (subset : watched ⊆ wider) {call : Site} {function : String}
    (found : call.watchedCallee? watched = some function) :
    call.watchedCallee? wider = some function := by
  rw [watchedCallee?_eq_some_iff] at found ⊢
  obtain ⟨isCall, callee, calleeAt, isName, isFunction, listed⟩ := found
  exact ⟨isCall, callee, calleeAt, isName, isFunction, subset listed⟩

namespace Finding

variable {lax strict : Vocabulary} (resolve : Site → Option Binding)

/-- The argument that a finding is about: its call and its position. -/
def place (finding : Finding) : Site × Nat :=
  (finding.call, finding.position)

theorem filterMap_place_sublist {lower upper : Site × Nat → Option Finding}
    (kept : ∀ argument finding, lower argument = some finding →
      ∃ other, upper argument = some other ∧ other.place = finding.place)
    (arguments : List (Site × Nat)) :
    ((arguments.filterMap lower).map place).Sublist
      ((arguments.filterMap upper).map place) := by
  induction arguments with
  | nil =>
      exact List.Sublist.refl []
  | cons argument rest inductionHypothesis =>
      cases found : lower argument with
      | none =>
          rw [List.filterMap_cons_none found]
          have further :=
            (List.sublist_cons_self argument rest).filterMap upper
          exact inductionHypothesis.trans (further.map place)
      | some finding =>
          obtain ⟨other, otherFound, samePlace⟩ :=
            kept argument finding found
          rw [List.filterMap_cons_some found,
            List.filterMap_cons_some otherFound, List.map_cons, List.map_cons,
            samePlace]
          exact inductionHypothesis.cons_cons finding.place

/-- The arguments that are risky at a site are risky under a stricter
vocabulary. -/
theorem ofSite_place_sublist (stricter : strict.IsStricter lax)
    (site : Site × Nat) :
    ((ofSite lax resolve site).map place).Sublist
      ((ofSite strict resolve site).map place) := by
  rw [ofSite]
  cases found : site.1.watchedCallee? lax.watched with
  | none =>
      exact List.nil_sublist _
  | some function =>
      have stillFound :=
        Site.watchedCallee?_of_subset stricter.watched found
      rw [ofSite, stillFound]
      apply filterMap_place_sublist
      intro argument finding isFinding
      obtain ⟨risky, rfl⟩ := ofArgument?_eq_some_iff.mp isFinding
      have order :=
        Verdict.ofArgument_level_le resolve stricter argument.1
      have stillRisky := Level.ne_none_of_le order risky
      exact ⟨_, ofArgument?_eq_some_iff.mpr ⟨stillRisky, rfl⟩, rfl⟩

/-- The arguments of equal calls at equal positions are equal. -/
theorem argument_eq_of_place_eq
    {tree : Node} {left right : Finding}
    (leftIn : left.IsIn tree lax) (rightIn : right.IsIn tree strict)
    (same : left.place = right.place) : left.argument = right.argument := by
  obtain ⟨sameCall, samePosition⟩ := Prod.mk.injEq .. ▸ same
  have leftListed := (Site.hasArgument_iff.mp leftIn.argued).2
  have rightListed := (Site.hasArgument_iff.mp rightIn.argued).2
  rw [sameCall, samePosition, rightListed] at leftListed
  exact (Option.some.inj leftListed).symm

end Finding

/-- Watching more functions or trusting fewer of them hides no finding.  The
audit of a tree under each vocabulary lists the issues of its findings; the
arguments found under the first are found under the second one in the same
order, and each is judged at least as grave there. -/
theorem Node.findings_kept_by_stricter_vocabulary
    (tree : Node) {watched wider safe narrower : List String}
    (more : watched ⊆ wider) (fewer : narrower ⊆ safe) :
    (∀ file lines,
      Ledger.ofTree tree file ⟨watched, safe⟩ lines =
          .ok ⟨(tree.findings ⟨watched, safe⟩).map
            (Finding.issue file lines)⟩ ∧
        Ledger.ofTree tree file ⟨wider, narrower⟩ lines =
          .ok ⟨(tree.findings ⟨wider, narrower⟩).map
            (Finding.issue file lines)⟩) ∧
      ((tree.findings ⟨watched, safe⟩).map Finding.place).Sublist
        ((tree.findings ⟨wider, narrower⟩).map Finding.place) ∧
      ∀ finding ∈ tree.findings ⟨watched, safe⟩,
        ∀ other ∈ tree.findings ⟨wider, narrower⟩,
          finding.place = other.place →
            finding.risk.level ≤ other.risk.level := by
  have stricter : Vocabulary.IsStricter ⟨wider, narrower⟩ ⟨watched, safe⟩ :=
    ⟨more, fewer⟩
  refine ⟨?_, ?_, ?_⟩
  · intro file lines
    exact ⟨Ledger.ofTree_eq file lines _ tree,
      Ledger.ofTree_eq file lines _ tree⟩
  · rw [Node.findings, Node.findings, List.map_flatMap, List.map_flatMap]
    apply List.Sublist.flatMap_right
    intro site _
    exact Finding.ofSite_place_sublist _ stricter site
  · intro finding member other otherMember same
    have isIn := Node.mem_findings_iff.mp member
    have otherIsIn := Node.mem_findings_iff.mp otherMember
    have sameArgument := Finding.argument_eq_of_place_eq isIn otherIsIn same
    rw [isIn.judged, otherIsIn.judged, sameArgument]
    exact Verdict.ofArgument_level_le _ stricter other.argument

/-- In `divDecimals(mulDecimals(rate), fee)`, watching the trusted inner function
as well adds the outer call's first argument and the inner call's only one to
what was found before. -/
theorem Node.findings_kept_by_watching_mulDecimals :
    (nestedCalls.findings ⟨["divDecimals"], ["mulDecimals"]⟩).map (fun found =>
        (found.function, found.position, found.risk.level)) =
      [("divDecimals", 2, .high)] ∧
      (nestedCalls.findings ⟨["divDecimals", "mulDecimals"], []⟩).map
          (fun found => (found.function, found.position, found.risk.level)) =
        [("divDecimals", 1, .low), ("divDecimals", 2, .high),
          ("mulDecimals", 1, .high)] ∧
      ((nestedCalls.findings ⟨["divDecimals"], ["mulDecimals"]⟩).map
          Finding.place).Sublist
        ((nestedCalls.findings ⟨["divDecimals", "mulDecimals"], []⟩).map
          Finding.place) := by
  refine ⟨?_, ?_, (Node.findings_kept_by_stricter_vocabulary nestedCalls
    (by simp) (by simp)).2.1⟩
  · rw [Node.findings, ScopeTable.ofTree, Node.declarations,
      Node.walk_eq_sites]
    rfl
  · rw [Node.findings, ScopeTable.ofTree, Node.declarations,
      Node.walk_eq_sites]
    rfl

end CallAudit
