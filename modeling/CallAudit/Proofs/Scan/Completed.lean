import CallAudit.Proofs.Issue.Findings
import CallAudit.Proofs.Report.Presentable
import CallAudit.Proofs.Scan.Prefix
import CallAudit.Proofs.Scope.Resolution

/-!
# What completed files contribute

A scan that nobody asks to stop tells of the files that were completed: those
that it reached before an interruption, could read and parse, and audited
without anything going wrong.

* `Node.HasUndeclaredArgument` says what a tree must hold for an issue of the
  gravest level.
* `Scan.Completes` says when a file is completed.
* `Scan.hasHigh_iff` puts the two together.
-/

namespace CallAudit

/-! ## Undeclared arguments -/

namespace Node

/-- Some argument of a watched call has a leaf that is a name which no scope
around it declares. -/
def HasUndeclaredArgument (watched : List String) (tree : Node) : Prop :=
  ∃ call ∈ tree.sites, ∃ function position argument leaf,
    call.CallsWatched watched function ∧
      call.HasArgument position argument ∧
      argument.HasLeaf leaf ∧ leaf.IsName ∧
      ∀ scope ∈ leaf.above, ¬ tree.DeclaredIn scope.path leaf.text

/-- A verdict on an argument of a tree is gravest exactly when the argument has
an undeclared name for a leaf. -/
theorem ofArgument_level_eq_high_iff
    (vocabulary : Vocabulary) {tree : Node} {argument : Site}
    (member : argument ∈ tree.sites) :
    (Verdict.ofArgument vocabulary (ScopeTable.ofTree tree).resolve
        argument).level = .high ↔
      ∃ leaf, argument.HasLeaf leaf ∧ leaf.IsName ∧
        ∀ scope ∈ leaf.above, ¬ tree.DeclaredIn scope.path leaf.text := by
  rw [Verdict.ofArgument_level_eq_high_iff]
  constructor
  · rintro ⟨leaf, isLeaf, isName, unbound⟩
    rw [ScopeTable.resolve_ofTree_eq_none_iff (isLeaf.mem_sites member)]
      at unbound
    exact ⟨leaf, isLeaf, isName, unbound⟩
  · rintro ⟨leaf, isLeaf, isName, undeclared⟩
    rw [← ScopeTable.resolve_ofTree_eq_none_iff (isLeaf.mem_sites member)]
      at undeclared
    exact ⟨leaf, isLeaf, isName, undeclared⟩

/-- The findings of the gravest level are those of undeclared arguments. -/
theorem exists_high_finding_iff (vocabulary : Vocabulary) (tree : Node) :
    (∃ finding ∈ tree.findings vocabulary, finding.risk.level = .high) ↔
      tree.HasUndeclaredArgument vocabulary.watched := by
  constructor
  · rintro ⟨finding, listed, grave⟩
    have holds := mem_findings_iff.mp listed
    have callMember := List.mem_of_getElem? holds.placed
    rw [holds.judged, ofArgument_level_eq_high_iff vocabulary
      (Site.argument_mem_sites callMember holds.argued)] at grave
    obtain ⟨leaf, undeclared⟩ := grave
    exact ⟨finding.call, callMember, finding.function, finding.position,
      finding.argument, leaf, holds.watched, holds.argued, undeclared⟩
  · rintro ⟨call, callMember, function, position, argument, leaf, watched,
      argued, undeclared⟩
    obtain ⟨index, placed⟩ := List.mem_iff_getElem?.mp callMember
    have grave := (ofArgument_level_eq_high_iff vocabulary
      (Site.argument_mem_sites callMember argued)).mpr ⟨leaf, undeclared⟩
    generalize judged :
      Verdict.ofArgument vocabulary (ScopeTable.ofTree tree).resolve argument =
        risk at grave
    refine ⟨⟨index, call, function, position, argument, risk⟩,
      mem_findings_iff.mpr ⟨placed, watched, argued, judged.symm, ?_⟩, grave⟩
    simp [grave]

end Node

/-- Every finding of a tree makes an issue that can be shown. -/
theorem Finding.IsIn.isPresentable
    {tree : Node} {vocabulary : Vocabulary} {finding : Finding}
    (holds : finding.IsIn tree vocabulary) (file : String)
    (lines : Option (List String)) :
    (finding.issue file lines).IsPresentable := by
  refine ⟨holds.risky, ?_⟩
  rw [Finding.issue, holds.judged]
  exact Verdict.ofArgument_renders _ _ _

/-! ## Files that were completed -/

/-- What can break into the examination of a file from outside. -/
inductive Disturbance where
  /-- Something goes wrong on the way. -/
  | failure (reason : String)
  /-- The run is broken off. -/
  | interruption
  deriving DecidableEq, Repr

/-- An examiner whose work on some files is broken into. -/
def Examiner.disturbed
    (disturb : String → Option Disturbance) (examiner : Examiner) : Examiner :=
  fun file text =>
    match disturb file with
    | none => examiner file text
    | some (.failure reason) => .failed reason
    | some .interruption => .interrupted

/-- The examiner that audits the trees of a reader, with what breaks into its
work. -/
def Examiner.auditing
    (read : TreeReader) (vocabulary : Vocabulary)
    (disturb : String → Option Disturbance) : Examiner :=
  (standard read vocabulary).disturbed disturb

/-- A file of a scan with its text and its tree, completed: the scan reached it
before any interruption, could read and parse it, and nothing went wrong. -/
structure Scan.Completes
    (disk : Disk) (read : TreeReader) (disturb : String → Option Disturbance)
    (files : List String) (file text : String) (tree : Node) : Prop where
  reached : ∃ before after, files = before ++ file :: after ∧
    ∀ other ∈ before,
      disk.text? other = none ∨ disturb other ≠ some .interruption
  readable : disk.text? file = some text
  undisturbed : disturb file = none
  parsed : Source.tree read (Source.withoutMark text) file = .ok tree

namespace ScanLog

open Examination

/-- A scan that nobody asks to stop holds the issues of the files that it
reaches before an interruption. -/
theorem mem_issues_iff
    (ending : String → Option Examination) (files : List String)
    (issue : Issue) :
    issue ∈ (through none ending files {}).scan.ledger.issues ↔
      ∃ before file after, files = before ++ file :: after ∧
        (∀ other ∈ before, ending other ≠ some .interrupted) ∧
        issue ∈ issuesOf (ending file) := by
  obtain ⟨done, started, unheeded, covers⟩ :=
    exists_covers none ending files {} rfl
  rw [covers.issues, Ledger.empty, List.nil_append, List.mem_flatMap]
  constructor
  · rintro ⟨file, listed, found⟩
    obtain ⟨before, between, shape⟩ := List.append_of_mem listed
    have whole := List.take_append_drop done files
    rw [shape, List.append_assoc, List.cons_append] at whole
    refine ⟨before, file, _, whole.symm, ?_, found⟩
    intro other member
    apply covers.undisturbed
    rw [shape]
    exact List.mem_append_left _ member
  · rintro ⟨before, file, after, shape, undisturbed, found⟩
    have finished : ending file ≠ some .interrupted := by
      intro interrupted
      simp [interrupted, issuesOf] at found
    have atPlace : files[before.length]? = some file := by
      simp [shape]
    have reached : before.length < done := by
      cases covers.stopped with
      | exhausted complete =>
          simp [complete, shape]
      | onRequest _ asked _ =>
          simp [answersAfter] at asked
      | interrupted placed broken _ =>
          rcases Nat.lt_trichotomy before.length done with lt | rfl | gt
          · exact lt
          · rw [atPlace, Option.some.injEq] at placed
            exact absurd (placed ▸ broken) finished
          · rw [shape, List.getElem?_append_left gt] at placed
            exact absurd broken
              (undisturbed _ (List.mem_of_getElem? placed))
    refine ⟨file, List.mem_of_getElem? (i := before.length) ?_, found⟩
    rw [List.getElem?_take_of_lt reached, atPlace]

end ScanLog

namespace Scan

variable {disk : Disk} {read : TreeReader} {vocabulary : Vocabulary}
  {disturb : String → Option Disturbance}

theorem auditing_eq (file text : String) :
    Examiner.auditing read vocabulary disturb file text =
      match disturb file with
      | none => .ofAudit (Source.audit read text file vocabulary)
      | some (.failure reason) => .failed reason
      | some .interruption => .interrupted :=
  rfl

theorem ofAudit_ne_interrupted (audit : Except AuditFault Ledger) :
    Examination.ofAudit audit ≠ .interrupted := by
  rcases audit with (_ | _) | _ <;> simp [Examination.ofAudit]

theorem examine_eq_interrupted_iff {file : String} :
    ScanLog.examine disk (.auditing read vocabulary disturb) file =
        some .interrupted ↔
      disk.text? file ≠ none ∧ disturb file = some .interruption := by
  cases readable : disk.text? file with
  | none =>
      simp [ScanLog.examine, readable]
  | some text =>
      rcases broken : disturb file with _ | (_ | _)
      · simp [ScanLog.examine, readable, auditing_eq, broken,
          ofAudit_ne_interrupted]
      · simp [ScanLog.examine, readable, auditing_eq, broken]
      · simp [ScanLog.examine, readable, auditing_eq, broken]

/-- The issues of a file are those of the findings in its tree, if nothing kept
the file from being audited. -/
theorem mem_issuesOf_examine_iff {file : String} {issue : Issue} :
    issue ∈ Examination.issuesOf
        (ScanLog.examine disk (.auditing read vocabulary disturb) file) ↔
      ∃ text tree, disk.text? file = some text ∧ disturb file = none ∧
        Source.tree read (Source.withoutMark text) file = .ok tree ∧
        ∃ finding ∈ tree.findings vocabulary,
          finding.issue file (some (Text.lines (Source.withoutMark text))) =
            issue := by
  cases readable : disk.text? file with
  | none =>
      simp [ScanLog.examine, readable, Examination.issuesOf]
  | some text =>
      rcases broken : disturb file with _ | (_ | _)
      · cases parsed : Source.tree read (Source.withoutMark text) file with
        | error fault =>
            simp [ScanLog.examine, readable, auditing_eq, broken,
              Source.audit, parsed, Examination.ofAudit, Examination.issuesOf]
        | ok tree =>
            simp [ScanLog.examine, readable, auditing_eq, broken,
              Source.audit_eq parsed, parsed, Examination.ofAudit,
              Examination.issuesOf]
      · simp [ScanLog.examine, readable, auditing_eq, broken,
          Examination.issuesOf]
      · simp [ScanLog.examine, readable, auditing_eq, broken,
          Examination.issuesOf]

/-- A scan holds the issues of the findings in the files that it completes. -/
theorem mem_issues_ofFiles_iff {files : List String} {issue : Issue} :
    issue ∈ (ofFiles disk (.auditing read vocabulary disturb) none
        files).scan.ledger.issues ↔
      ∃ file text tree, Completes disk read disturb files file text tree ∧
        ∃ finding ∈ tree.findings vocabulary,
          finding.issue file (some (Text.lines (Source.withoutMark text))) =
            issue := by
  rw [ofFiles, ScanLog.mem_issues_iff]
  simp only [ne_eq, examine_eq_interrupted_iff, mem_issuesOf_examine_iff,
    Decidable.not_and_iff_or_not, Decidable.not_not]
  constructor
  · rintro ⟨before, file, after, shape, undisturbed, text, tree, readable,
      whole, parsed, found⟩
    exact ⟨file, text, tree,
      ⟨⟨before, after, shape, undisturbed⟩, readable, whole, parsed⟩, found⟩
  · rintro ⟨file, text, tree, completes, found⟩
    obtain ⟨before, after, shape, undisturbed⟩ := completes.reached
    exact ⟨before, file, after, shape, undisturbed, text, tree,
      completes.readable, completes.undisturbed, completes.parsed, found⟩

/-- Every issue of a scan can be shown, wherever the scan was stopped. -/
theorem isPresentable_of_mem_issues {stop : Option StopRule}
    {files : List String} :
    ∀ issue ∈ (ofFiles disk (.auditing read vocabulary disturb) stop
        files).scan.ledger.issues,
      issue.IsPresentable := by
  intro issue listed
  obtain ⟨done, _, _, covers⟩ := ScanLog.exists_covers stop
    (ScanLog.examine disk (.auditing read vocabulary disturb)) files {} rfl
  rw [ofFiles, covers.issues, Ledger.empty, List.nil_append,
    List.mem_flatMap] at listed
  obtain ⟨file, _, inside⟩ := listed
  obtain ⟨_, _, _, _, _, finding, found, rfl⟩ :=
    mem_issuesOf_examine_iff.mp inside
  exact (Node.mem_findings_iff.mp found).isPresentable _ _

/-- A scan under a vocabulary: of any files on any disk, stopped and disturbed
in any way. -/
def IsUnder (vocabulary : Vocabulary) (scan : Scan) : Prop :=
  ∃ disk read disturb stop files elapsed,
    scan =
      { (ofFiles disk (.auditing read vocabulary disturb) stop files).scan with
        elapsed := elapsed }

/-- Scans are reported under every known level. -/
theorem IsUnder.isReported {scan : Scan} {minLevel : String}
    (under : scan.IsUnder vocabulary)
    (known : minLevel ∈ Settings.levelNames) : scan.IsReported minLevel := by
  obtain ⟨disk, read, disturb, stop, files, elapsed, rfl⟩ := under
  exact Scan.isReported known isPresentable_of_mem_issues

/-- A scan finds an issue of the gravest level exactly when it completes a file
with an undeclared argument. -/
theorem hasHigh_iff {files : List String} :
    (ofFiles disk (.auditing read vocabulary disturb) none
        files).scan.ledger.hasHigh = true ↔
      ∃ file text tree, Completes disk read disturb files file text tree ∧
        tree.HasUndeclaredArgument vocabulary.watched := by
  simp only [Ledger.hasHigh, List.any_eq_true, decide_eq_true_eq,
    ← Node.exists_high_finding_iff]
  constructor
  · rintro ⟨issue, listed, grave⟩
    obtain ⟨file, text, tree, completes, finding, found, rfl⟩ :=
      mem_issues_ofFiles_iff.mp listed
    exact ⟨file, text, tree, completes, finding, found, grave⟩
  · rintro ⟨file, text, tree, completes, finding, found, grave⟩
    exact ⟨_, mem_issues_ofFiles_iff.mpr
      ⟨file, text, tree, completes, finding, found, rfl⟩, grave⟩

end Scan

end CallAudit
