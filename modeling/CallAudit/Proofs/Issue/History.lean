import CallAudit.Issue.Ledger
import CallAudit.Proofs.Issue.Sections
import CallAudit.Proofs.Outcome
import CallAudit.Risk.Verdict
import Mathlib.Data.List.Induction
import Mathlib.Logic.Function.Basic

/-!
# Histories of ledgers

Several ledgers start empty and go through a history of operations: a verdict is
recorded in one of them, or one of them takes over the issues of another one,
which may be itself.  A record can be refused; the history then goes on with the
ledgers as they were.

* `Ledgers.perform_cases` says what one operation does to all the ledgers.
* `Ledgers.IsKept` is the invariant: every issue in a ledger is one that some
  record of the history was answered with.
* Since such an issue is above harmless, the sections of a ledger always exist.
-/

namespace CallAudit

/-! ## Submissions -/

/-- A verdict on an argument of a call, to be recorded. -/
structure Submission where
  file : String
  call : Site
  function : String
  index : Int
  risk : Risk
  lines : Option (List String)

namespace Submission

/-- The answer to a submission: no issue, an issue, or a refusal. -/
def answer (submission : Submission) :
    Except NoSuchArgument (Option Issue) :=
  Ledger.issue? submission.file submission.call submission.function
    submission.index submission.risk submission.lines

def InRange (submission : Submission) : Prop :=
  0 ≤ submission.index ∧
    submission.index < submission.call.callArguments.length

/-- An issue that tells of a submission. -/
structure IsToldBy (submission : Submission) (issue : Issue) : Prop where
  answered : submission.answer = .ok (some issue)
  risk : issue.risk = submission.risk
  risky : issue.risk.level ≠ .none
  position : issue.argument = submission.index + 1
  first : 1 ≤ issue.argument
  last : issue.argument ≤ submission.call.callArguments.length

variable {submission : Submission}

theorem answer_of_harmless (harmless : submission.risk.level = .none) :
    submission.answer = .ok none := by
  rw [answer, Ledger.issue?, if_pos harmless]

theorem answer_of_outside (risky : submission.risk.level ≠ .none)
    (outside : ¬ submission.InRange) :
    submission.answer =
      .error ⟨submission.index, submission.function,
        submission.call.callArguments.length⟩ := by
  rw [answer, Ledger.issue?, if_neg risky]
  by_cases negative : submission.index < 0
  · simp [negative]
  · have beyond : submission.call.callArguments.length ≤
        submission.index.toNat := by
      rw [InRange] at outside
      omega
    simp [negative, beyond]

theorem answer_of_inRange (risky : submission.risk.level ≠ .none)
    (inRange : submission.InRange) :
    ∃ issue, submission.IsToldBy issue := by
  obtain ⟨nonnegative, below⟩ := inRange
  have notNegative : ¬ submission.index < 0 := by omega
  have bound : submission.index.toNat <
      submission.call.callArguments.length := by
    omega
  refine ⟨Ledger.issueFor submission.file submission.call submission.function
    submission.index.toNat submission.risk submission.lines
    (submission.call.callArguments[submission.index.toNat]),
    ?_, rfl, risky, ?_, ?_, ?_⟩
  · rw [answer, Ledger.issue?, if_neg risky]
    simp [notNegative, bound]
  all_goals
    simp only [Ledger.issueFor]
    omega

theorem isToldBy_of_answer {issue : Issue}
    (answered : submission.answer = .ok (some issue)) :
    submission.IsToldBy issue := by
  by_cases harmless : submission.risk.level = .none
  · rw [answer_of_harmless harmless] at answered
    simp at answered
  · by_cases inRange : submission.InRange
    · obtain ⟨other, told⟩ := answer_of_inRange harmless inRange
      have same := told.answered
      rw [answered] at same
      cases same
      exact told
    · rw [answer_of_outside harmless inRange] at answered
      simp at answered

end Submission

/-! ## Operations -/

/-- An operation on ledgers that go by names. -/
inductive Operation (ι : Type) where
  | record (target : ι) (submission : Submission)
  | merge (target other : ι)

abbrev Ledgers (ι : Type) := ι → Ledger

namespace Ledgers

variable {ι : Type} [DecidableEq ι]

/-- The ledgers after an operation.  A refused record changes nothing. -/
def perform (ledgers : Ledgers ι) : Operation ι → Ledgers ι
  | .record target submission =>
      match (ledgers target).record submission.file submission.call
          submission.function submission.index submission.risk
          submission.lines with
      | .ok next => Function.update ledgers target next
      | .error _ => ledgers
  | .merge target other =>
      Function.update ledgers target
        ((ledgers target).merge (ledgers other))

def after (history : List (Operation ι)) : Ledgers ι :=
  history.foldl perform fun _ => .empty

theorem after_append (history : List (Operation ι)) (operation : Operation ι) :
    after (history ++ [operation]) = (after history).perform operation := by
  rw [after, List.foldl_append]
  rfl

def extend (ledgers : Ledgers ι) (target : ι) (issues : List Issue) :
    Ledgers ι :=
  Function.update ledgers target ⟨(ledgers target).issues ++ issues⟩

theorem extend_nil (ledgers : Ledgers ι) (target : ι) :
    ledgers.extend target [] = ledgers := by
  rw [extend, List.append_nil]
  exact Function.update_eq_self target ledgers

theorem perform_record_of_answer (ledgers : Ledgers ι) (target : ι)
    {submission : Submission} {issue : Option Issue}
    (answered : submission.answer = .ok issue) :
    ledgers.perform (.record target submission) =
      ledgers.extend target issue.toList := by
  have recorded : (ledgers target).record submission.file submission.call
      submission.function submission.index submission.risk
      submission.lines = .ok ((ledgers target).add issue) :=
    Outcome.map_eq_ok_iff.mpr ⟨issue, answered, rfl⟩
  rw [perform, recorded]
  rfl

theorem perform_record_of_refusal (ledgers : Ledgers ι) (target : ι)
    {submission : Submission} {fault : NoSuchArgument}
    (refused : submission.answer = .error fault) :
    ledgers.perform (.record target submission) = ledgers := by
  have recorded : (ledgers target).record submission.file submission.call
      submission.function submission.index submission.risk
      submission.lines = .error fault :=
    Outcome.map_eq_error_iff.mpr refused
  rw [perform, recorded]

theorem perform_merge (ledgers : Ledgers ι) (target other : ι) :
    ledgers.perform (.merge target other) =
      ledgers.extend target (ledgers other).issues :=
  rfl

/-- What one operation does: it puts an issue that tells of its submission, or
the issues of another ledger, at the end of a ledger, or does nothing. -/
theorem perform_cases (ledgers : Ledgers ι) (operation : Operation ι) :
    (∃ target submission issue,
      operation = .record target submission ∧ submission.IsToldBy issue ∧
        ledgers.perform operation = ledgers.extend target [issue]) ∨
      (∃ target other, operation = .merge target other ∧
        ledgers.perform operation =
          ledgers.extend target (ledgers other).issues) ∨
      ledgers.perform operation = ledgers := by
  cases operation with
  | record target submission =>
      cases answered : submission.answer with
      | error fault =>
          exact Or.inr (Or.inr (perform_record_of_refusal ledgers target answered))
      | ok issue =>
          have performed :=
            perform_record_of_answer ledgers target answered
          cases issue with
          | none =>
              rw [Option.toList_none, extend_nil] at performed
              exact Or.inr (Or.inr performed)
          | some issue =>
              exact Or.inl ⟨target, submission, issue, rfl,
                Submission.isToldBy_of_answer answered, performed⟩
  | merge target other =>
      exact Or.inr (Or.inl ⟨target, other, rfl,
        perform_merge ledgers target other⟩)

/-! ## The invariant -/

/-- Every issue in a ledger tells of a submission of the history. -/
def IsKept (history : List (Operation ι)) (ledgers : Ledgers ι) : Prop :=
  ∀ name, ∀ issue ∈ (ledgers name).issues,
    ∃ target submission, .record target submission ∈ history ∧
      submission.IsToldBy issue

theorem mem_extend {ledgers : Ledgers ι} {target name : ι}
    {issues : List Issue} {issue : Issue}
    (listed : issue ∈ ((ledgers.extend target issues) name).issues) :
    issue ∈ (ledgers name).issues ∨ issue ∈ issues := by
  by_cases same : name = target
  · subst same
    rw [extend, Function.update_self] at listed
    exact List.mem_append.mp listed
  · rw [extend, Function.update_of_ne same] at listed
    exact Or.inl listed

omit [DecidableEq ι] in
theorem IsKept.longer {history : List (Operation ι)} {ledgers : Ledgers ι}
    (kept : IsKept history ledgers) (operation : Operation ι) :
    IsKept (history ++ [operation]) ledgers := by
  intro name issue listed
  obtain ⟨target, submission, past, told⟩ := kept name issue listed
  exact ⟨target, submission, List.mem_append_left [operation] past, told⟩

theorem IsKept.perform {history : List (Operation ι)} {ledgers : Ledgers ι}
    (kept : IsKept history ledgers) (operation : Operation ι) :
    IsKept (history ++ [operation]) (ledgers.perform operation) := by
  have before := kept.longer operation
  rcases ledgers.perform_cases operation with
    ⟨target, submission, issue, rfl, told, performed⟩ |
    ⟨target, other, rfl, performed⟩ | performed
  · rw [performed]
    intro name found listed
    rcases mem_extend listed with old | new
    · exact before name found old
    · obtain rfl := List.mem_singleton.mp new
      exact ⟨target, submission, List.mem_append_right history
        List.mem_cons_self, told⟩
  · rw [performed]
    intro name found listed
    rcases mem_extend listed with old | new
    · exact before name found old
    · exact before other found new
  · rw [performed]
    exact before

theorem isKept_after (history : List (Operation ι)) :
    IsKept history (after history) := by
  -- From the end, since the last operation acts on all that came before.
  induction history using List.reverseRecOn with
  | nil =>
      intro name issue listed
      simp [after, Ledger.empty] at listed
  | append_singleton history operation inductionHypothesis =>
      rw [after_append]
      exact inductionHypothesis.perform operation

end Ledgers

/-! ## Sections of a ledger -/

/-- The sections of a ledger hold its issues by level, each as often as the
ledger does. -/
structure Ledger.IsDivided (ledger : Ledger) (high medium low : List Issue) :
    Prop where
  sections : Issue.sections ledger.issues =
    .ok [(.high, high), (.medium, medium), (.low, low)]
  highest : high = ledger.issues.filter fun issue => issue.risk.level = .high
  middle : medium = ledger.issues.filter fun issue => issue.risk.level = .medium
  lowest : low = ledger.issues.filter fun issue => issue.risk.level = .low
  whole : (high ++ medium ++ low).Perm ledger.issues
  grave : ledger.hasHigh = true ↔ high ≠ []

theorem Ledger.hasHigh_iff_ofLevel (ledger : Ledger) :
    ledger.hasHigh = true ↔ Issue.ofLevel .high ledger.issues ≠ [] := by
  rw [hasHigh, List.any_eq_true, Ne, Issue.ofLevel, List.filter_eq_nil_iff]
  simp

theorem Ledger.isDivided_of_risky {ledger : Ledger}
    (risky : ∀ issue ∈ ledger.issues, issue.risk.level ≠ .none) :
    ledger.IsDivided (Issue.ofLevel .high ledger.issues)
      (Issue.ofLevel .medium ledger.issues)
      (Issue.ofLevel .low ledger.issues) where
  sections := Issue.sections_of_risky risky
  highest := rfl
  middle := rfl
  lowest := rfl
  whole := by
    have sorted := Issue.flatMap_ofLevel_eq_byGravity risky
    simp only [Level.reported, List.flatMap_cons, List.flatMap_nil,
      List.append_nil, ← List.append_assoc] at sorted
    rw [sorted]
    exact Issue.byGravity_perm ledger.issues
  grave := ledger.hasHigh_iff_ofLevel

/-! ## Every history -/

namespace Ledgers

variable {ι : Type} [DecidableEq ι]

/-- What holds of all ledgers after a history.  Every issue is above harmless
and tells of a submission that was in range, and every ledger divides into its
sections.  The next operation puts at the end of one ledger what it should, and
leaves everything else alone. -/
structure IsSound (history : List (Operation ι)) : Prop where
  told : ∀ name, ∀ issue ∈ (after history name).issues,
    issue.risk.level ≠ .none ∧
      ∃ target submission, .record target submission ∈ history ∧
        submission.IsToldBy issue
  divided : ∀ name, ∃ high medium low,
    (after history name).IsDivided high medium low
  harmless : ∀ target submission, submission.risk.level = .none →
    submission.answer = .ok none ∧
      after (history ++ [.record target submission]) = after history
  refusal : ∀ submission : Submission, submission.risk.level ≠ .none →
    ((∃ fault, submission.answer = .error fault) ↔ ¬ submission.InRange)
  refused : ∀ target submission, submission.risk.level ≠ .none →
    ¬ submission.InRange →
      submission.answer =
          .error ⟨submission.index, submission.function,
            submission.call.callArguments.length⟩ ∧
        after (history ++ [.record target submission]) = after history
  accepted : ∀ target submission, submission.risk.level ≠ .none →
    submission.InRange →
      ∃ issue, submission.IsToldBy issue ∧
        after (history ++ [.record target submission]) =
          Function.update (after history) target
            ⟨(after history target).issues ++ [issue]⟩
  merged : ∀ target other,
    after (history ++ [.merge target other]) =
      Function.update (after history) target
        ⟨(after history target).issues ++ (after history other).issues⟩

theorem sound_after_history (history : List (Operation ι)) :
    IsSound history where
  told name issue listed := by
    obtain ⟨target, submission, past, told⟩ :=
      isKept_after history name issue listed
    exact ⟨told.risky, target, submission, past, told⟩
  divided name := by
    refine ⟨_, _, _, Ledger.isDivided_of_risky ?_⟩
    intro issue listed
    obtain ⟨_, _, _, told⟩ := isKept_after history name issue listed
    exact told.risky
  harmless target submission harmless := by
    have answered := Submission.answer_of_harmless harmless
    refine ⟨answered, ?_⟩
    rw [after_append, perform_record_of_answer _ target answered,
      Option.toList_none, extend_nil]
  refusal submission risky := by
    constructor
    · intro refused inRange
      obtain ⟨fault, refused⟩ := refused
      obtain ⟨issue, told⟩ := Submission.answer_of_inRange risky inRange
      rw [told.answered] at refused
      simp at refused
    · intro outside
      exact ⟨_, Submission.answer_of_outside risky outside⟩
  refused target submission risky outside := by
    have answered := Submission.answer_of_outside risky outside
    refine ⟨answered, ?_⟩
    rw [after_append, perform_record_of_refusal _ target answered]
  accepted target submission risky inRange := by
    obtain ⟨issue, told⟩ := Submission.answer_of_inRange risky inRange
    refine ⟨issue, told, ?_⟩
    rw [after_append, perform_record_of_answer _ target told.answered]
    rfl
  merged target other := by
    rw [after_append, perform_merge]
    rfl

/-- A grave verdict on an argument of the call `rate(fee)`. -/
def rateSubmission (index : Int) : Submission where
  file := "rate.js"
  call := .root (.node { kind := "call_expression" }
    [.node { kind := "arguments", field := some "arguments" }
      [.node { kind := "identifier", text := "fee" } []]])
  function := "rate"
  index := index
  risk := Verdict.ofName "fee" none
  lines := none

/-- A refused record, an accepted one, a merge into another ledger and a merge
of that one with itself. -/
def rateHistory : List (Operation Bool) :=
  [.record false (rateSubmission (-1)), .record false (rateSubmission 0),
    .merge true false, .merge true true]

theorem sound_after_rate_history :
    ∃ issue, (rateSubmission 0).IsToldBy issue ∧
      (after rateHistory false).issues = [issue] ∧
      (after rateHistory true).issues = [issue, issue] ∧
      ∃ high medium low,
        (after rateHistory true).IsDivided high medium low := by
  have risky : ∀ index, (rateSubmission index).risk.level ≠ .none := by
    intro index harmless
    exact absurd harmless (by decide : Level.high ≠ .none)
  have refused := ((sound_after_history ([] : List (Operation Bool))).refused
    false (rateSubmission (-1)) (risky (-1)) (by
      rintro ⟨nonnegative, _⟩
      exact absurd nonnegative (by decide))).2
  obtain ⟨issue, told, accepted⟩ := (sound_after_history
    [.record false (rateSubmission (-1))]).accepted false
    (rateSubmission 0) (risky 0) ⟨by decide, by decide⟩
  have merged := (sound_after_history
    [.record false (rateSubmission (-1)),
      .record false (rateSubmission 0)]).merged true false
  have doubled := (sound_after_history
    [.record false (rateSubmission (-1)), .record false (rateSubmission 0),
      .merge true false]).merged true true
  simp only [List.nil_append, List.cons_append]
    at refused accepted merged doubled
  have empty : after ([] : List (Operation Bool)) = fun _ => .empty := rfl
  refine ⟨issue, told, ?_, ?_, (sound_after_history rateHistory).divided true⟩
  all_goals
    rw [rateHistory, doubled, merged, accepted, refused, empty]
    simp [Ledger.empty]

end Ledgers

end CallAudit
