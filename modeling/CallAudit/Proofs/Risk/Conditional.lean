import CallAudit.Proofs.Risk.Verdict
import Mathlib.Logic.Function.Iterate

/-!
# Verdicts on conditionals

A conditional is judged by a loop over a stack: what comes off the stack is a
leaf, which gets its verdict, or another conditional, which puts its branches on
the stack.  Only the verdicts on all the leaves are combined, and only once.

The result is the one of the two-branch rule `Risk.combine`, applied at every
conditional to the verdicts on its two branches.  Nothing is lost on the way
because a verdict without risk carries nothing else either
(`Verdict.eq_harmless_of_level`).
-/

namespace CallAudit

namespace Level

theorem rank_join (left right : Level) :
    (join left right).rank = max left.rank right.rank := by
  cases left <;> cases right <;> rfl

theorem join_eq_none_iff (left right : Level) :
    join left right = .none ↔ left = .none ∧ right = .none := by
  cases left <;> cases right <;> decide

theorem join_assoc (first second third : Level) :
    join (join first second) third = join first (join second third) := by
  cases first <;> cases second <;> cases third <;> rfl

theorem none_join (level : Level) : join .none level = level := by
  cases level <;> rfl

theorem foldl_join (levels : List Level) (level : Level) :
    levels.foldl join level = join level (joinAll levels) := by
  induction levels generalizing level with
  | nil =>
      cases level <;> rfl
  | cons head rest inductionHypothesis =>
      have fromHead : joinAll (head :: rest) = join head (joinAll rest) := by
        rw [joinAll, List.foldl_cons, inductionHypothesis, none_join]
      rw [List.foldl_cons, inductionHypothesis, fromHead, join_assoc]

theorem joinAll_cons (level : Level) (levels : List Level) :
    joinAll (level :: levels) = join level (joinAll levels) := by
  rw [joinAll, List.foldl_cons, foldl_join, none_join]

theorem joinAll_append (left right : List Level) :
    joinAll (left ++ right) = join (joinAll left) (joinAll right) := by
  rw [joinAll, List.foldl_append, foldl_join]
  rfl

theorem joinAll_eq_none_iff (levels : List Level) :
    joinAll levels = .none ↔ ∀ level ∈ levels, level = .none := by
  induction levels with
  | nil =>
      simp [joinAll]
  | cons head rest inductionHypothesis =>
      rw [joinAll_cons, join_eq_none_iff, inductionHypothesis,
        List.forall_mem_cons]

end Level

/-- The verdict on two branches, from the verdicts on each. -/
def Risk.combine (left right : Risk) : Risk :=
  if left.level = .none ∧ right.level = .none then
    .harmless
  else
    { level := left.level.join right.level,
      reason := "one or both branches of the conditional carry risk",
      suggestions := left.suggestions ++ right.suggestions }

theorem Risk.rank_combine (left right : Risk) :
    (left.combine right).level.rank =
      max left.level.rank right.level.rank := by
  rw [combine]
  split
  · next noRisk =>
      rw [noRisk.1, noRisk.2]
      rfl
  · exact Level.rank_join left.level right.level

/-! ## Verdicts without risk -/

namespace Verdict

variable (vocabulary : Vocabulary) (resolve : Site → Option Binding)

theorem ofName_eq_harmless_of_level {name : String}
    {binding : Option Binding}
    (noRisk : (ofName name binding).level = .none) :
    ofName name binding = .harmless := by
  cases binding with
  | none =>
      simp [ofName] at noRisk
  | some binding =>
      rw [ofName] at noRisk ⊢
      split
      · next uninitialized =>
          rw [if_pos uninitialized] at noRisk
          simp at noRisk
      · next initialized =>
          rw [if_neg initialized] at noRisk
          split
          · next undefaulted =>
              rw [if_pos undefaulted] at noRisk
              simp at noRisk
          · rfl

theorem ofAccess_eq_harmless_of_level {site : Site}
    (noRisk : (ofAccess site).level = .none) :
    ofAccess site = .harmless := by
  rw [ofAccess] at noRisk ⊢
  split at noRisk
  · simp [*]
  · simp [ofUnguardedAccess] at noRisk

theorem ofCall_eq_harmless_of_level {call : Node}
    (noRisk : (ofCall vocabulary call).level = .none) :
    ofCall vocabulary call = .harmless := by
  rw [ofCall] at noRisk ⊢
  cases called : call.child? "function" with
  | none =>
      rfl
  | some callee =>
      simp only [called] at noRisk ⊢
      by_cases isName : callee.kind = "identifier"
      · by_cases trusted : callee.text ∈ vocabulary.safe
        · simp [isName, trusted]
        · by_cases watched : callee.text ∈ vocabulary.watched
          · simp [isName, trusted, watched] at noRisk
          · simp [isName, trusted, watched]
      · simp [isName]

theorem ofLeaf_eq_harmless_of_level {site : Site}
    (noRisk : (ofLeaf vocabulary resolve site).level = .none) :
    ofLeaf vocabulary resolve site = .harmless := by
  rw [ofLeaf] at noRisk ⊢
  split
  · rfl
  · next notLiteral =>
      rw [if_neg notLiteral] at noRisk
      split
      · next isName =>
          rw [if_pos isName] at noRisk
          exact ofName_eq_harmless_of_level noRisk
      · next notName =>
          rw [if_neg notName] at noRisk
          split
          · next isAccess =>
              rw [if_pos isAccess] at noRisk
              exact ofAccess_eq_harmless_of_level noRisk
          · next notAccess =>
              rw [if_neg notAccess] at noRisk
              split
              · next isCall =>
                  rw [if_pos isCall] at noRisk
                  exact ofCall_eq_harmless_of_level vocabulary noRisk
              · next notCall =>
                  rw [if_neg notCall] at noRisk
                  simp at noRisk

theorem ofBranches_eq_harmless_of_level {risks : List Risk}
    (noRisk : (ofBranches risks).level = .none) :
    ofBranches risks = .harmless := by
  rw [ofBranches_level] at noRisk
  simp [ofBranches, noRisk]

/-- A verdict without risk says nothing else either. -/
theorem eq_harmless_of_level {argument : Site}
    (noRisk : (ofArgument vocabulary resolve argument).level = .none) :
    ofArgument vocabulary resolve argument = .harmless := by
  simp only [ofArgument] at noRisk ⊢
  split
  · next conditional =>
      rw [if_pos conditional] at noRisk
      exact ofBranches_eq_harmless_of_level noRisk
  · next leaf =>
      rw [if_neg leaf] at noRisk
      exact ofLeaf_eq_harmless_of_level vocabulary resolve noRisk

end Verdict

/-! ## The leaves of two branches -/

namespace Site

theorem unwrap_unwrap (site : Site) : site.unwrap.unwrap = site.unwrap :=
  unwrap_of_bare site.unwrap_bare

theorem leavesFrom_append (left right : List Site) :
    leavesFrom (left ++ right) = leavesFrom left ++ leavesFrom right := by
  fun_induction leavesFrom left with
  | case1 =>
      rfl
  | case2 site pending conditional inductionHypothesis =>
      rw [List.cons_append, leavesFrom, if_pos conditional,
        ← List.append_assoc, inductionHypothesis]
  | case3 site pending leaf inductionHypothesis =>
      rw [List.cons_append, leavesFrom, if_neg leaf, inductionHypothesis,
        List.cons_append]

theorem leaves_of_conditional {site : Site}
    (conditional : site.unwrap.kind = conditionalKind) :
    site.leaves =
      leavesFrom (site.unwrap.child? "consequence").toList ++
        leavesFrom (site.unwrap.child? "alternative").toList := by
  rw [leaves, leavesFrom, if_pos (beq_iff_eq.mpr conditional), List.append_nil,
    branches, leavesFrom_append]

theorem leaves_of_leaf {site : Site}
    (leaf : site.unwrap.kind ≠ conditionalKind) :
    site.leaves = [site.unwrap] := by
  rw [leaves, leavesFrom, if_neg (by simpa using leaf), leavesFrom]

theorem leaves_unwrap (site : Site) : site.unwrap.leaves = site.leaves := by
  by_cases conditional : site.unwrap.kind = conditionalKind
  · have again : site.unwrap.unwrap.kind = conditionalKind := by
      rw [unwrap_unwrap, conditional]
    rw [leaves_of_conditional again, leaves_of_conditional conditional,
      unwrap_unwrap]
  · have again : site.unwrap.unwrap.kind ≠ conditionalKind := by
      rw [unwrap_unwrap]
      exact conditional
    rw [leaves_of_leaf again, leaves_of_leaf conditional, unwrap_unwrap]

end Site

namespace Verdict

variable (vocabulary : Vocabulary) (resolve : Site → Option Binding)

theorem ofArgument_of_conditional {argument : Site}
    (conditional : argument.unwrap.kind = conditionalKind) :
    ofArgument vocabulary resolve argument =
      ofBranches (argument.leaves.map (ofLeaf vocabulary resolve)) := by
  simp only [ofArgument, conditional, beq_self_eq_true, if_true,
    Site.leaves_unwrap]

theorem ofArgument_of_leaf {argument : Site}
    (leaf : argument.unwrap.kind ≠ conditionalKind) :
    ofArgument vocabulary resolve argument =
      ofLeaf vocabulary resolve argument.unwrap := by
  simp [ofArgument, leaf]

/-- What a verdict keeps of the verdicts on leaves: the gravest level and all
the suggestions. -/
structure Sums (risk : Risk) (risks : List Risk) : Prop where
  level : risk.level = Level.joinAll (risks.map Risk.level)
  suggestions : risk.suggestions = risks.flatMap Risk.suggestions

theorem ofBranches_append {left right : List Risk} {first second : Risk}
    (sumsLeft : Sums first left) (sumsRight : Sums second right) :
    ofBranches (left ++ right) = first.combine second := by
  have level : Level.joinAll ((left ++ right).map Risk.level) =
      first.level.join second.level := by
    rw [List.map_append, Level.joinAll_append, ← sumsLeft.level,
      ← sumsRight.level]
  have suggestions : (left ++ right).flatMap Risk.suggestions =
      first.suggestions ++ second.suggestions := by
    rw [List.flatMap_append, ← sumsLeft.suggestions, ← sumsRight.suggestions]
  rw [ofBranches, Risk.combine]
  simp only [level, suggestions, Level.join_eq_none_iff]

/-- Leaves without risk have no suggestions to lose. -/
theorem sums_ofBranches (leaves : List Site) :
    Sums (ofBranches (leaves.map (ofLeaf vocabulary resolve)))
      (leaves.map (ofLeaf vocabulary resolve)) := by
  refine ⟨ofBranches_level _, ?_⟩
  rw [ofBranches]
  split
  · next noRisk =>
      have harmless := (Level.joinAll_eq_none_iff _).mp noRisk
      have nothing : Risk.harmless.suggestions = [] := rfl
      rw [nothing, eq_comm, List.flatMap_eq_nil_iff]
      intro risk listed
      obtain ⟨leaf, _, rfl⟩ := List.mem_map.mp listed
      rw [ofLeaf_eq_harmless_of_level vocabulary resolve
        (harmless _ (List.mem_map_of_mem listed))]
      rfl
  · rfl

theorem sums_ofArgument (argument : Site) :
    Sums (ofArgument vocabulary resolve argument)
      (argument.leaves.map (ofLeaf vocabulary resolve)) := by
  by_cases conditional : argument.unwrap.kind = conditionalKind
  · rw [ofArgument_of_conditional vocabulary resolve conditional]
    exact sums_ofBranches vocabulary resolve argument.leaves
  · rw [ofArgument_of_leaf vocabulary resolve conditional,
      Site.leaves_of_leaf conditional]
    constructor
    · rw [List.map_singleton, List.map_singleton, Level.joinAll_cons]
      cases (ofLeaf vocabulary resolve argument.unwrap).level <;> rfl
    · rw [List.map_singleton, List.flatMap_singleton]

/-- The verdict on a branch; a branch that is missing is harmless. -/
def ofBranch (branch : Option Site) : Risk :=
  (branch.map (ofArgument vocabulary resolve)).getD .harmless

theorem sums_ofBranch (branch : Option Site) :
    Sums (ofBranch vocabulary resolve branch)
      ((Site.leavesFrom branch.toList).map (ofLeaf vocabulary resolve)) := by
  cases branch with
  | none =>
      rw [Option.toList_none, Site.leavesFrom]
      exact ⟨rfl, rfl⟩
  | some site =>
      exact sums_ofArgument vocabulary resolve site

/-! ## The loop -/

/-- The state of the loop over a conditional: the expressions that are still to
be looked at, the next one first, and the verdicts so far. -/
structure Pass where
  pending : List Site
  risks : List Risk

def Pass.round : Pass → Pass
  | ⟨[], risks⟩ => ⟨[], risks⟩
  | ⟨site :: pending, risks⟩ =>
      if site.unwrap.kind == conditionalKind then
        ⟨site.unwrap.branches ++ pending, risks⟩
      else
        ⟨pending, risks ++ [ofArgument vocabulary resolve site.unwrap]⟩

theorem ofArgument_unwrap_of_leaf {site : Site}
    (leaf : site.unwrap.kind ≠ conditionalKind) :
    ofArgument vocabulary resolve site.unwrap =
      ofLeaf vocabulary resolve site.unwrap := by
  have again : site.unwrap.unwrap.kind ≠ conditionalKind := by
    rw [Site.unwrap_unwrap]
    exact leaf
  rw [ofArgument_of_leaf vocabulary resolve again, Site.unwrap_unwrap]

/-- The loop comes to its end within as many rounds as there are nodes at and
below the expressions on the stack, with the verdicts on all their leaves. -/
theorem Pass.ends (stack : List Site) (risks : List Risk) :
    ∃ rounds ≤ Site.pendingSize stack,
      (round vocabulary resolve)^[rounds] ⟨stack, risks⟩ =
        ⟨[], risks ++
          (Site.leavesFrom stack).map (ofLeaf vocabulary resolve)⟩ := by
  fun_induction Site.leavesFrom stack generalizing risks with
  | case1 =>
      exact ⟨0, Nat.zero_le _, by simp⟩
  | case2 site pending conditional inductionHypothesis =>
      obtain ⟨rounds, bound, ended⟩ := inductionHypothesis risks
      have fewer := Site.pendingSize_branches_lt site pending
      refine ⟨rounds + 1, by omega, ?_⟩
      rw [Function.iterate_succ_apply, round, if_pos conditional, ended]
  | case3 site pending leaf inductionHypothesis =>
      obtain ⟨rounds, bound, ended⟩ := inductionHypothesis
        (risks ++ [ofLeaf vocabulary resolve site.unwrap])
      have fewer := Site.pendingSize_tail_lt site pending
      have isLeaf : site.unwrap.kind ≠ conditionalKind := by
        simpa using leaf
      refine ⟨rounds + 1, by omega, ?_⟩
      rw [Function.iterate_succ_apply, round, if_neg leaf,
        ofArgument_unwrap_of_leaf vocabulary resolve isLeaf, ended,
        List.map_cons, List.append_assoc, List.singleton_append]

/-! ## The rule -/

/-- The verdict on a conditional is the combination of the verdicts on its
branches, however they are nested and wrapped.  The loop that computes it ends
within as many rounds as the conditional has nodes, and a verdict without risk
is the harmless one. -/
theorem conditional_combines_branches :
    (∀ argument : Site, argument.unwrap.kind = conditionalKind →
      ofArgument vocabulary resolve argument =
        (ofBranch vocabulary resolve
            (argument.unwrap.child? "consequence")).combine
          (ofBranch vocabulary resolve
            (argument.unwrap.child? "alternative"))) ∧
      (∀ left right : Risk,
        (left.combine right).level.rank =
          max left.level.rank right.level.rank) ∧
      (∀ argument : Site,
        ∃ rounds ≤ argument.node.size, ∃ risks,
          (Pass.round vocabulary resolve)^[rounds] ⟨[argument], []⟩ =
              ⟨[], risks⟩ ∧
            (argument.unwrap.kind = conditionalKind →
              ofArgument vocabulary resolve argument = ofBranches risks)) ∧
      (∀ argument : Site,
        (ofArgument vocabulary resolve argument).level = .none →
          ofArgument vocabulary resolve argument = .harmless) := by
  refine ⟨?_, Risk.rank_combine, ?_, ?_⟩
  · intro argument conditional
    rw [ofArgument_of_conditional vocabulary resolve conditional,
      Site.leaves_of_conditional conditional, List.map_append]
    exact ofBranches_append (sums_ofBranch vocabulary resolve _)
      (sums_ofBranch vocabulary resolve _)
  · intro argument
    obtain ⟨rounds, bound, ended⟩ :=
      Pass.ends vocabulary resolve [argument] []
    have size : Site.pendingSize [argument] = argument.node.size := by
      simp [Site.pendingSize, sizeAmong]
    rw [size] at bound
    refine ⟨rounds, bound, _, ended, ?_⟩
    intro conditional
    rw [List.nil_append,
      ofArgument_of_conditional vocabulary resolve conditional]
    rfl
  · intro argument noRisk
    exact eq_harmless_of_level vocabulary resolve noRisk

/-- The conditional `late ? 0 : fee` in parentheses, with a comment. -/
def lateFee : Node :=
  .node { kind := parenthesesKind, field := some "alternative" }
    [.node { kind := "comment" } [],
      .node { kind := conditionalKind }
        [.node { kind := "number", field := some "consequence" } [],
          .node
            { kind := "identifier", field := some "alternative",
              text := "fee" } []]]

/-- The conditional `paid ? rate : (late ? 0 : fee)`. -/
def rateOrLateFee : Node :=
  .node { kind := conditionalKind }
    [.node
      { kind := "identifier", field := some "consequence", text := "rate" } [],
      lateFee]

theorem conditional_combines_rate_and_fee :
    ofArgument ⟨[], []⟩ (fun _ => none) (Site.root rateOrLateFee) =
      { level := .high,
        reason := "one or both branches of the conditional carry risk",
        suggestions :=
          [⟨"verify-declaration", [("name", "rate")]⟩,
            ⟨"verify-declaration", [("name", "fee")]⟩] } := by
  have rule := (conditional_combines_branches ⟨[], []⟩ fun _ => none).1
  have inner := rule ⟨[1], [rateOrLateFee], lateFee⟩ rfl
  have alternative :
      (Site.root rateOrLateFee).unwrap.child? "alternative" =
        some ⟨[1], [rateOrLateFee], lateFee⟩ :=
    rfl
  rw [rule (Site.root rateOrLateFee) rfl, alternative, ofBranch,
    ofBranch, Option.map_some, Option.getD_some, inner]
  rfl

end Verdict

end CallAudit
