import CallAudit.Proofs.Issue.Sections
import CallAudit.Report.Basic
import Mathlib.Algebra.BigOperators.Group.List.Lemmas
import Mathlib.Algebra.GroupWithZero.Nat
import Mathlib.Data.List.Dedup
import Mathlib.Data.List.Sort

/-!
# Counting issues

Reports count issues by level and by function.  Either way every key stands
once, with the number of issues that have it, so the numbers add up to the
number of all issues.
-/

namespace CallAudit.Report

/-! ## Tallies -/

/-- Every key stands once, with how often it occurs. -/
structure IsTally {α : Type} [BEq α]
    (keys : List α) (counts : List (α × Nat)) : Prop where
  distinct : (counts.map Prod.fst).Nodup
  covers : ∀ key, key ∈ counts.map Prod.fst ↔ key ∈ keys
  counted : ∀ entry ∈ counts, entry.2 = keys.count entry.1

namespace IsTally

section Keys

variable {α : Type} [DecidableEq α]
  {keys : List α} {counts others : List (α × Nat)}

theorem perm (tally : IsTally keys counts) (same : others.Perm counts) :
    IsTally keys others where
  distinct := (same.map Prod.fst).nodup_iff.mpr tally.distinct
  covers key := by
    rw [(same.map Prod.fst).mem_iff]
    exact tally.covers key
  counted entry listed := tally.counted entry (same.mem_iff.mp listed)

theorem total (tally : IsTally keys counts) :
    (counts.map Prod.snd).sum = keys.length := by
  -- The numbers are those of the distinct keys, in some order.
  have numbers :
      counts.map Prod.snd = (counts.map Prod.fst).map keys.count := by
    rw [List.map_map]
    exact List.map_congr_left tally.counted
  have sameKeys : (counts.map Prod.fst).Perm keys.dedup := by
    rw [List.perm_ext_iff_of_nodup tally.distinct keys.nodup_dedup]
    intro key
    rw [tally.covers, List.mem_dedup]
  rw [numbers, (sameKeys.map keys.count).sum_eq]
  exact keys.sum_map_count_dedup_eq_length

end Keys

/-! ## Counting one name after the other -/

variable {names : List String} {counts : List (String × Nat)}

theorem any_iff_mem {name : String} :
    (counts.any fun entry => entry.1 == name) = true ↔
      name ∈ counts.map Prod.fst := by
  simp

theorem count_known (tally : IsTally names counts) {name : String}
    (known : name ∈ counts.map Prod.fst) :
    IsTally (names ++ [name]) (countName counts name) := by
  have counting : countName counts name = counts.map fun entry =>
      if entry.1 == name then (entry.1, entry.2 + 1) else entry := by
    rw [countName, if_pos (any_iff_mem.mpr known)]
  -- Only a number changes, so the keys stand as they stood.
  have sameKeys :
      (countName counts name).map Prod.fst = counts.map Prod.fst := by
    rw [counting, List.map_map]
    apply List.map_congr_left
    intro entry listed
    by_cases same : entry.1 = name
    · simp [same]
    · simp [same]
  constructor
  · rw [sameKeys]
    exact tally.distinct
  · intro key
    rw [sameKeys, tally.covers, List.mem_append, List.mem_singleton]
    constructor
    · exact Or.inl
    · rintro (old | rfl)
      · exact old
      · exact (tally.covers key).mp known
  · intro entry listed
    rw [counting] at listed
    obtain ⟨before, past, rfl⟩ := List.mem_map.mp listed
    have counted := tally.counted before past
    by_cases same : before.1 = name
    · simp [same, counted]
    · simp [same, counted, List.count_append, Ne.symm same]

theorem count_new (tally : IsTally names counts) {name : String}
    (unknown : name ∉ counts.map Prod.fst) :
    IsTally (names ++ [name]) (countName counts name) := by
  have counting : countName counts name = counts ++ [(name, 1)] := by
    rw [countName, if_neg (mt any_iff_mem.mp unknown)]
  have absent : name ∉ names := mt (tally.covers name).mpr unknown
  rw [counting]
  constructor
  · rw [List.map_append, List.nodup_append]
    refine ⟨tally.distinct, List.nodup_singleton name, ?_⟩
    intro key old other new same
    obtain rfl := List.mem_singleton.mp new
    exact unknown (same ▸ old)
  · intro key
    rw [List.map_append, List.mem_append, List.mem_append, tally.covers]
    rfl
  · intro entry listed
    rcases List.mem_append.mp listed with old | new
    · have different : name ≠ entry.1 := by
        intro same
        exact unknown (same ▸ List.mem_map_of_mem old)
      rw [tally.counted entry old, List.count_append,
        List.count_singleton, if_neg (by simpa using different)]
      rfl
    · obtain rfl := List.mem_singleton.mp new
      simp [List.count_append, List.count_eq_zero.mpr absent]

theorem countName (tally : IsTally names counts) (name : String) :
    IsTally (names ++ [name]) (countName counts name) := by
  by_cases known : name ∈ counts.map Prod.fst
  · exact tally.count_known known
  · exact tally.count_new known

theorem foldl (rest : List String) (tally : IsTally names counts) :
    IsTally (names ++ rest) (rest.foldl Report.countName counts) := by
  induction rest generalizing names counts with
  | nil =>
      rw [List.append_nil]
      exact tally
  | cons name rest inductionHypothesis =>
      have next := inductionHypothesis (tally.countName name)
      rw [List.append_assoc] at next
      exact next

end IsTally

/-! ## Issues by function -/

theorem isTally_functionTally (issues : List Issue) :
    IsTally (issues.map Issue.function) (functionTally issues) := by
  have start : IsTally ([] : List String) [] :=
    ⟨List.nodup_nil, fun _ => Iff.rfl, by simp⟩
  exact start.foldl (issues.map Issue.function)

theorem insertByCount_eq (entry : String × Nat)
    (counts : List (String × Nat)) :
    insertByCount entry counts =
      counts.orderedInsert (fun left right => right.2 ≤ left.2) entry := by
  induction counts with
  | nil =>
      rfl
  | cons head rest inductionHypothesis =>
      rw [insertByCount, List.orderedInsert_cons, inductionHypothesis]

theorem functionCounts_eq (issues : List Issue) :
    functionCounts issues = (functionTally issues).insertionSort
      fun left right => right.2 ≤ left.2 := by
  have inserting : insertByCount =
      List.orderedInsert fun left right => right.2 ≤ left.2 :=
    funext fun entry => funext (insertByCount_eq entry)
  rw [functionCounts, List.insertionSort, inserting]

theorem isTally_functionCounts (issues : List Issue) :
    IsTally (issues.map Issue.function) (functionCounts issues) := by
  rw [functionCounts_eq]
  exact (isTally_functionTally issues).perm (List.perm_insertionSort _ _)

theorem functionCounts_pairwise (issues : List Issue) :
    (functionCounts issues).Pairwise fun left right => right.2 ≤ left.2 := by
  have total : Std.Total fun left right : String × Nat => right.2 ≤ left.2 :=
    ⟨fun left right => Nat.le_total right.2 left.2⟩
  have trans : IsTrans (String × Nat) fun left right => right.2 ≤ left.2 :=
    ⟨fun _ _ _ upper lower => Nat.le_trans lower upper⟩
  rw [functionCounts_eq]
  exact List.pairwise_insertionSort _ _

/-! ## Issues by level -/

theorem length_ofLevel (level : Level) (issues : List Issue) :
    (Issue.ofLevel level issues).length =
      (issues.map fun issue => issue.risk.level).count level := by
  rw [Issue.ofLevel, List.count_eq_countP, List.countP_map,
    List.countP_eq_length_filter]
  congr 1

theorem isTally_levelCounts {issues : List Issue}
    (risky : ∀ issue ∈ issues, issue.risk.level ≠ .none) :
    IsTally (issues.map fun issue => issue.risk.level)
      (levelCounts issues) := by
  have counting : levelCounts issues =
      (Level.reported.filter fun level =>
        (Issue.ofLevel level issues).length != 0).map fun level =>
          (level, (Issue.ofLevel level issues).length) := by
    rw [levelCounts, List.filter_map]
    rfl
  have keys : (levelCounts issues).map Prod.fst =
      Level.reported.filter fun level =>
        (Issue.ofLevel level issues).length != 0 := by
    rw [counting, List.map_map]
    exact List.map_id _
  constructor
  · rw [keys]
    exact List.Nodup.filter _ (by decide)
  · intro level
    rw [keys, List.mem_filter, length_ofLevel, bne_iff_ne,
      ← Nat.pos_iff_ne_zero, List.count_pos_iff]
    constructor
    · exact And.right
    · intro listed
      obtain ⟨issue, inside, rfl⟩ := List.mem_map.mp listed
      exact ⟨Level.mem_reported_iff.mpr (risky issue inside), listed⟩
  · intro entry listed
    rw [counting] at listed
    obtain ⟨level, _, rfl⟩ := List.mem_map.mp listed
    exact length_ofLevel level issues

end CallAudit.Report
