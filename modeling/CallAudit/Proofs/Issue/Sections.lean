import CallAudit.Issue.Basic

/-!
# Sections of issues

Issues above harmless all go to a section, and the sections in their order are
the issues in the order of a stable sort: the gravest first, and issues of one
level as they were.
-/

namespace CallAudit

theorem Level.mem_reported_iff {level : Level} :
    level ∈ reported ↔ level ≠ .none := by
  cases level <;> decide

namespace Issue

variable {issues : List Issue}

theorem sections_of_risky
    (risky : ∀ issue ∈ issues, issue.risk.level ≠ .none) :
    sections issues =
      .ok (Level.reported.map fun level => (level, ofLevel level issues)) := by
  have noneHarmless : (issues.find? fun issue =>
      decide (issue.risk.level = .none)) = none := by
    rw [List.find?_eq_none]
    intro issue listed
    simpa using risky issue listed
  rw [sections, noneHarmless]

/-- The issues with the gravest first; those of one level keep their order. -/
def byGravity (issues : List Issue) : List Issue :=
  issues.mergeSort fun left right => right.risk.level ≤ left.risk.level

theorem byGravity_perm (issues : List Issue) :
    (byGravity issues).Perm issues :=
  List.mergeSort_perm issues _

theorem gravity_trans (first second third : Issue)
    (upper : decide (second.risk.level ≤ first.risk.level) = true)
    (lower : decide (third.risk.level ≤ second.risk.level) = true) :
    decide (third.risk.level ≤ first.risk.level) = true := by
  rw [decide_eq_true_eq] at upper lower ⊢
  exact Nat.le_trans lower upper

theorem gravity_total (left right : Issue) :
    (decide (right.risk.level ≤ left.risk.level) ||
      decide (left.risk.level ≤ right.risk.level)) = true := by
  rw [Bool.or_eq_true, decide_eq_true_eq, decide_eq_true_eq]
  exact Nat.le_total right.risk.level.rank left.risk.level.rank

theorem byGravity_pairwise (issues : List Issue) :
    (byGravity issues).Pairwise fun left right =>
      right.risk.level ≤ left.risk.level := by
  have sorted :=
    List.pairwise_mergeSort gravity_trans gravity_total issues
  refine sorted.imp ?_
  intro left right order
  exact of_decide_eq_true order

theorem level_of_mem_ofLevel {level : Level} {issue : Issue}
    (listed : issue ∈ ofLevel level issues) : issue.risk.level = level := by
  simpa using (List.mem_filter.mp listed).2

/-- Sorting moves no issue past another one of its level. -/
theorem ofLevel_byGravity (level : Level) (issues : List Issue) :
    ofLevel level (byGravity issues) = ofLevel level issues := by
  have alike : (ofLevel level issues).Pairwise fun left right =>
      decide (right.risk.level ≤ left.risk.level) = true := by
    rw [List.pairwise_iff_forall_sublist]
    intro left right pair
    have leftLevel := level_of_mem_ofLevel (pair.subset List.mem_cons_self)
    have rightLevel := level_of_mem_ofLevel
      (pair.subset (List.mem_cons_of_mem left List.mem_cons_self))
    rw [leftLevel, rightLevel, decide_eq_true_eq]
    exact Nat.le_refl level.rank
  have kept : (ofLevel level issues).Sublist (byGravity issues) :=
    List.sublist_mergeSort gravity_trans gravity_total alike
      List.filter_sublist
  have keptAlone := kept.filter fun issue =>
    decide (issue.risk.level = level)
  have again : (ofLevel level issues).filter
      (fun issue => decide (issue.risk.level = level)) =
        ofLevel level issues := by
    rw [ofLevel, List.filter_filter]
    simp
  rw [again] at keptAlone
  refine (keptAlone.eq_of_length ?_).symm
  exact ((byGravity_perm issues).filter _).length_eq.symm

theorem ofLevel_cons (level : Level) (issue : Issue) (rest : List Issue) :
    ofLevel level (issue :: rest) =
      if issue.risk.level = level then issue :: ofLevel level rest
      else ofLevel level rest := by
  by_cases same : issue.risk.level = level
  · simp [ofLevel, same]
  · simp [ofLevel, same]

theorem ofLevel_eq_nil {level bound : Level}
    (lower : ∀ issue ∈ issues, issue.risk.level ≤ bound)
    (above : ¬ level ≤ bound) : ofLevel level issues = [] := by
  rw [ofLevel, List.filter_eq_nil_iff]
  intro issue listed same
  rw [decide_eq_true_eq] at same
  exact above (same ▸ lower issue listed)

/-- Issues in falling order of level are their sections in a row. -/
theorem eq_flatMap_ofLevel
    (risky : ∀ issue ∈ issues, issue.risk.level ≠ .none)
    (falling : issues.Pairwise fun left right =>
      right.risk.level ≤ left.risk.level) :
    Level.reported.flatMap (fun level => ofLevel level issues) = issues := by
  induction issues with
  | nil =>
      rfl
  | cons issue rest inductionHypothesis =>
      obtain ⟨lower, restFalling⟩ := List.pairwise_cons.mp falling
      have restRisky : ∀ other ∈ rest, other.risk.level ≠ .none :=
        fun other listed => risky other (List.mem_cons_of_mem issue listed)
      have restShape := inductionHypothesis restRisky restFalling
      simp only [Level.reported, List.flatMap_cons, List.flatMap_nil,
        List.append_nil, ofLevel_cons] at restShape ⊢
      -- The sections above the level of the first issue are empty.
      cases level : issue.risk.level with
      | none =>
          exact absurd level (risky issue List.mem_cons_self)
      | high =>
          simp [restShape]
      | medium =>
          rw [level] at lower
          have noHigh :=
            ofLevel_eq_nil lower (by decide : ¬ Level.high ≤ .medium)
          rw [noHigh] at restShape
          simpa [noHigh] using restShape
      | low =>
          rw [level] at lower
          have noHigh :=
            ofLevel_eq_nil lower (by decide : ¬ Level.high ≤ .low)
          have noMedium :=
            ofLevel_eq_nil lower (by decide : ¬ Level.medium ≤ .low)
          rw [noHigh, noMedium] at restShape
          simpa [noHigh, noMedium] using restShape

theorem flatMap_ofLevel_eq_byGravity
    (risky : ∀ issue ∈ issues, issue.risk.level ≠ .none) :
    Level.reported.flatMap (fun level => ofLevel level issues) =
      byGravity issues := by
  have sortedRisky : ∀ issue ∈ byGravity issues,
      issue.risk.level ≠ .none := by
    intro issue listed
    exact risky issue ((byGravity_perm issues).mem_iff.mp listed)
  have sections :=
    eq_flatMap_ofLevel sortedRisky (byGravity_pairwise issues)
  simpa only [ofLevel_byGravity] using sections

end Issue

end CallAudit
