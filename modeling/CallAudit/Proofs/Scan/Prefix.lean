import CallAudit.Scan.Run
import Mathlib.Data.List.Forall2

/-!
# A scan is a scan of the first files

However a scan ends, what it came to is what the first so many of its files
came to: the issues of those that were examined to the end, and the others with
the reason why they were skipped.  A scan that was broken off differs from a
complete one only in the number of these files.

* `ComesTo` tells what a file comes to from its text on the disk and from the
  examination of that text.
* `ScanLog.Stopped` lists the three ways in which a scan ends.
* `ScanLog.Covers` relates a log before and after going through files, and
  `ScanLog.exists_covers` shows that every scan keeps to it.
-/

namespace CallAudit

/-! ## What one file comes to -/

namespace Examination

/-- The issues of a file that was examined to the end. -/
def issuesOf : Option Examination → List Issue
  | some (.finished ledger) => ledger.issues
  | _ => []

def isFinished : Option Examination → Bool
  | some (.finished _) => true
  | _ => false

def skipReason? : Option Examination → Option String
  | none => some "unreadable"
  | some (.refused reason) => some reason
  | some (.failed reason) => some reason
  | some (.finished _) => none
  | some .interrupted => none

def skippedFile? (file : String) (ending : Option Examination) :
    Option SkippedFile :=
  (skipReason? ending).map fun reason => ⟨file, reason⟩

end Examination

open Examination

namespace ScanLog

section Note

variable (log : ScanLog) (file : String) (ending : Option Examination)

@[simp]
theorem note_issues :
    (log.note file ending).scan.ledger.issues =
      log.scan.ledger.issues ++ issuesOf ending := by
  rcases ending with _ | examination
  · simp [note, skip, Scan.skip, issuesOf]
  · cases examination <;>
      simp [note, skip, Scan.skip, Scan.complete, Ledger.merge, issuesOf]

@[simp]
theorem note_filesScanned :
    (log.note file ending).scan.filesScanned =
      log.scan.filesScanned + (isFinished ending).toNat := by
  rcases ending with _ | examination
  · rfl
  · cases examination <;> rfl

@[simp]
theorem note_skipped :
    (log.note file ending).scan.skipped =
      log.scan.skipped ++ (skippedFile? file ending).toList := by
  rcases ending with _ | examination
  · rfl
  · cases examination <;>
      simp [note, skip, Scan.skip, Scan.complete, skippedFile?, skipReason?]

@[simp]
theorem note_cancelled :
    (log.note file ending).scan.cancelled = log.scan.cancelled := by
  rcases ending with _ | examination
  · rfl
  · cases examination <;> rfl

@[simp]
theorem note_polls : (log.note file ending).polls = log.polls := by
  rcases ending with _ | examination
  · rfl
  · cases examination <;> rfl

end Note

/-! ## Asking whether to stop -/

/-- The answers that are left after a number of questions. -/
def answersAfter (stop : Option StopRule) (asked : Nat) : Option StopRule :=
  stop.map fun rule => fun later => rule (asked + later)

/-- The number of questions that go with a number of occasions. -/
def questions (stop : Option StopRule) (occasions : Nat) : Nat :=
  if stop.isSome then occasions else 0

/-- The ways in which a scan ends after the first `done` files, with the
number of files it started and the number of questions that were not followed
by a file. -/
inductive Stopped
    (stop : Option StopRule) (interrupts : String → Prop)
    (files : List String) (done : Nat) : (started unheeded : Nat) → Prop
  /-- There was no file left. -/
  | exhausted :
      done = files.length → Stopped stop interrupts files done done 0
  /-- The answer before the next file was to stop. -/
  | onRequest {rule : StopRule} :
      done < files.length → stop = some rule → rule done = true →
      Stopped stop interrupts files done done 1
  /-- The next file was started and interrupted. -/
  | interrupted {file : String} :
      files[done]? = some file → interrupts file →
      (∀ rule, stop = some rule → rule done = false) →
      Stopped stop interrupts files done (done + 1) 0

/-- A log after going through files, compared with the log before: the first
`done` files are accounted for and nothing else is. -/
structure Covers
    (stop : Option StopRule) (ending : String → Option Examination)
    (files : List String) (before after : ScanLog)
    (done started unheeded : Nat) : Prop where
  bound : done ≤ files.length
  issues : after.scan.ledger.issues =
    before.scan.ledger.issues ++
      (files.take done).flatMap fun file => issuesOf (ending file)
  scanned : after.scan.filesScanned =
    before.scan.filesScanned +
      (files.take done).countP fun file => isFinished (ending file)
  skipped : after.scan.skipped =
    before.scan.skipped ++
      (files.take done).filterMap fun file => skippedFile? file (ending file)
  undisturbed : ∀ file ∈ files.take done, ending file ≠ some .interrupted
  heeded : ∀ rule, answersAfter stop before.polls = some rule →
    ∀ index < done, rule index = false
  cancelled : after.scan.cancelled = true ↔ done < files.length
  stopped : Stopped (answersAfter stop before.polls)
    (fun file => ending file = some .interrupted) files done started unheeded
  polls : after.polls = before.polls + questions stop (started + unheeded)

variable {stop : Option StopRule} {ending : String → Option Examination}

theorem poll_answer (log : ScanLog) :
    (log.poll stop).1 = true ↔
      ∃ rule, answersAfter stop log.polls = some rule ∧ rule 0 = true := by
  cases stop <;> simp [poll, answersAfter]

theorem poll_scan (log : ScanLog) : (log.poll stop).2.scan = log.scan := by
  cases stop <;> rfl

theorem poll_polls (log : ScanLog) :
    (log.poll stop).2.polls = log.polls + questions stop 1 := by
  cases stop <;> rfl

theorem answersAfter_succ (asked : Nat) :
    answersAfter stop (asked + questions stop 1) =
      answersAfter (answersAfter stop asked) 1 := by
  cases stop with
  | none =>
      rfl
  | some rule =>
      simp [answersAfter, questions, Nat.add_assoc]

/-! ## Steps -/

theorem covers_nil {log : ScanLog} (running : log.scan.cancelled = false) :
    Covers stop ending [] log log 0 0 0 where
  bound := Nat.le_refl 0
  issues := by simp
  scanned := by simp
  skipped := by simp
  undisturbed := by simp
  heeded := by simp
  cancelled := by simp [running]
  stopped := .exhausted rfl
  polls := by simp [questions]

/-- A scan that breaks off before or in a file accounts for nothing more. -/
theorem covers_cancel
    {file : String} {rest : List String} {log : ScanLog}
    {started unheeded : Nat}
    (stopped : Stopped (answersAfter stop log.polls)
      (fun file => ending file = some .interrupted) (file :: rest) 0
      started unheeded)
    (once : started + unheeded = 1) :
    Covers stop ending (file :: rest) log (log.poll stop).2.cancel 0
      started unheeded where
  bound := Nat.zero_le _
  issues := by simp [cancel, Scan.cancel, poll_scan]
  scanned := by simp [cancel, Scan.cancel, poll_scan]
  skipped := by simp [cancel, Scan.cancel, poll_scan]
  undisturbed := by simp
  heeded := by simp
  cancelled := by simp [cancel, Scan.cancel]
  stopped := stopped
  polls := by
    rw [once]
    exact poll_polls log

theorem stopped_cons {interrupts : String → Prop}
    {file : String} {rest : List String} {done started unheeded : Nat}
    (later : Stopped (answersAfter stop 1) interrupts rest done started
      unheeded) :
    Stopped stop interrupts (file :: rest) (done + 1) (started + 1)
      unheeded := by
  cases later with
  | exhausted complete =>
      exact .exhausted (by simp [complete])
  | onRequest within asked answer =>
      obtain ⟨rule, rfl, rfl⟩ := Option.map_eq_some_iff.mp asked
      refine .onRequest (by simpa using within) rfl ?_
      rwa [Nat.add_comm]
  | interrupted placed broken allowed =>
      refine .interrupted (by simpa using placed) broken ?_
      rintro rule rfl
      rw [Nat.add_comm]
      exact allowed _ rfl

/-- A file that was not interrupted is accounted for, and the scan goes on
with the rest. -/
theorem covers_cons
    {file : String} {rest : List String} {log after : ScanLog}
    {done started unheeded : Nat}
    (goOn : ¬ (log.poll stop).1 = true)
    (whole : ending file ≠ some .interrupted)
    (later : Covers stop ending rest
      ((log.poll stop).2.note file (ending file)) after
      done started unheeded) :
    Covers stop ending (file :: rest) log after
      (done + 1) (started + 1) unheeded where
  bound := Nat.succ_le_succ later.bound
  issues := by
    rw [later.issues, note_issues, poll_scan]
    simp
  scanned := by
    rw [later.scanned, note_filesScanned, poll_scan, List.take_succ_cons,
      List.countP_cons]
    cases isFinished (ending file) with
    | false =>
        simp
    | true =>
        simp
        omega
  skipped := by
    rw [later.skipped, note_skipped, poll_scan, List.take_succ_cons,
      List.filterMap_cons]
    cases skippedFile? file (ending file) <;> simp
  undisturbed := by
    intro other member
    rw [List.take_succ_cons, List.mem_cons] at member
    rcases member with rfl | inRest
    · exact whole
    · exact later.undisturbed other inRest
  heeded := by
    intro rule answers index within
    cases index with
    | zero =>
        cases answer : rule 0 with
        | false =>
            rfl
        | true =>
            exact absurd ((poll_answer log).mpr ⟨rule, answers, answer⟩) goOn
    | succ index =>
        have rest := later.heeded (fun later => rule (1 + later)) (by
          rw [note_polls, poll_polls, answersAfter_succ, answers]
          rfl)
        rw [Nat.add_comm]
        exact rest index (by omega)
  cancelled := by
    rw [later.cancelled]
    simp
  stopped := by
    have rest := later.stopped
    rw [note_polls, poll_polls, answersAfter_succ] at rest
    exact stopped_cons rest
  polls := by
    rw [later.polls, note_polls, poll_polls]
    cases stop with
    | none =>
        simp [questions]
    | some rule =>
        simp [questions]
        omega

/-! ## Runs -/

/-- Every scan accounts for the first so many of its files. -/
theorem exists_covers (stop : Option StopRule)
    (ending : String → Option Examination) :
    ∀ (files : List String) (log : ScanLog), log.scan.cancelled = false →
      ∃ done started unheeded,
        Covers stop ending files log (through stop ending files log)
          done started unheeded
  | [], log, running => ⟨0, 0, 0, covers_nil running⟩
  | file :: rest, log, running => by
      rw [through]
      by_cases asked : (log.poll stop).1 = true
      · rw [if_pos asked]
        obtain ⟨rule, answers, answer⟩ := (poll_answer log).mp asked
        exact ⟨0, 0, 1, covers_cancel
          (.onRequest (by simp) answers answer) rfl⟩
      · rw [if_neg asked]
        by_cases broken : ending file = some .interrupted
        · refine ⟨0, 1, 0, ?_⟩
          rw [broken]
          refine covers_cancel (.interrupted rfl broken ?_) rfl
          intro rule answers
          cases answer : rule 0 with
          | false =>
              rfl
          | true =>
              exact absurd ((poll_answer log).mpr ⟨rule, answers, answer⟩)
                asked
        · have running' :
              ((log.poll stop).2.note file (ending file)).scan.cancelled =
                false := by
            rw [note_cancelled, poll_scan, running]
          obtain ⟨done, started, unheeded, later⟩ :=
            exists_covers stop ending rest _ running'
          refine ⟨done + 1, started + 1, unheeded, ?_⟩
          split
          · next interrupted =>
              exact absurd interrupted broken
          · exact covers_cons asked broken later

/-- A file that was not interrupted is either examined to the end or
skipped. -/
theorem isFinished_xor_skipped
    (file : String) {outcome : Option Examination}
    (whole : outcome ≠ some .interrupted) :
    (isFinished outcome = true ∧ skippedFile? file outcome = none) ∨
      (isFinished outcome = false ∧
        ∃ skipped, skippedFile? file outcome = some skipped) := by
  cases outcome with
  | none =>
      exact Or.inr ⟨rfl, _, rfl⟩
  | some examination =>
      cases examination with
      | finished ledger =>
          exact Or.inl ⟨rfl, rfl⟩
      | refused reason =>
          exact Or.inr ⟨rfl, _, rfl⟩
      | failed reason =>
          exact Or.inr ⟨rfl, _, rfl⟩
      | interrupted =>
          exact absurd rfl whole

theorem countP_isFinished_add_length_skipped
    {ending : String → Option Examination} :
    ∀ files : List String,
      (∀ file ∈ files, ending file ≠ some .interrupted) →
        (files.countP fun file => isFinished (ending file)) +
            (files.filterMap fun file =>
              skippedFile? file (ending file)).length =
          files.length
  | [], _ => rfl
  | file :: rest, whole => by
      have restCount := countP_isFinished_add_length_skipped rest
        fun other member => whole other (List.mem_cons_of_mem file member)
      rw [List.countP_cons, List.filterMap_cons, List.length_cons]
      rcases isFinished_xor_skipped file (whole file List.mem_cons_self) with
        ⟨finished, unskipped⟩ | ⟨unfinished, skipped, isSkipped⟩
      · simp only [finished, unskipped, if_true]
        omega
      · simp only [unfinished, isSkipped, Bool.false_eq_true, if_false,
          List.length_cons]
        omega

end ScanLog

/-! ## What the files of a scan come to -/

/-- What a file comes to in a scan. -/
inductive FileResult where
  | completed (issues : List Issue)
  | skipped (reason : String)
  | interrupted

/-- What a file comes to.  A file without a text is skipped as unreadable; the
examination of any other text decides: it completes the file with the issues it
found, skips it with its own reason, or is interrupted. -/
inductive ComesTo (disk : Disk) (examiner : Examiner) (file : String) :
    FileResult → Prop
  | unreadable :
      disk.text? file = none →
      ComesTo disk examiner file (.skipped "unreadable")
  | refused {text reason : String} :
      disk.text? file = some text →
      examiner file text = .refused reason →
      ComesTo disk examiner file (.skipped reason)
  | failed {text reason : String} :
      disk.text? file = some text →
      examiner file text = .failed reason →
      ComesTo disk examiner file (.skipped reason)
  | interrupted {text : String} :
      disk.text? file = some text →
      examiner file text = .interrupted →
      ComesTo disk examiner file .interrupted
  | completed {text : String} {ledger : Ledger} :
      disk.text? file = some text →
      examiner file text = .finished ledger →
      ComesTo disk examiner file (.completed ledger.issues)

namespace FileResult

def issues : FileResult → List Issue
  | .completed issues => issues
  | _ => []

def isCompleted : FileResult → Bool
  | .completed _ => true
  | _ => false

def skippedFile? (file : String) : FileResult → Option SkippedFile
  | .skipped reason => some ⟨file, reason⟩
  | _ => none

def ofEnding : Option Examination → FileResult
  | none => .skipped "unreadable"
  | some (.finished ledger) => .completed ledger.issues
  | some (.refused reason) => .skipped reason
  | some (.failed reason) => .skipped reason
  | some .interrupted => .interrupted

section OfEnding

variable (ending : Option Examination)

theorem issues_ofEnding : (ofEnding ending).issues = issuesOf ending := by
  rcases ending with _ | examination
  · rfl
  · cases examination <;> rfl

theorem isCompleted_ofEnding :
    (ofEnding ending).isCompleted = isFinished ending := by
  rcases ending with _ | examination
  · rfl
  · cases examination <;> rfl

theorem skippedFile?_ofEnding (file : String) :
    (ofEnding ending).skippedFile? file =
      Examination.skippedFile? file ending := by
  rcases ending with _ | examination
  · rfl
  · cases examination <;> rfl

theorem ofEnding_eq_interrupted_iff :
    ofEnding ending = .interrupted ↔ ending = some .interrupted := by
  rcases ending with _ | examination
  · simp [ofEnding]
  · cases examination <;> simp [ofEnding]

end OfEnding

end FileResult

/-- Every file comes to one thing. -/
theorem comesTo_iff {disk : Disk} {examiner : Examiner} {file : String}
    {result : FileResult} :
    ComesTo disk examiner file result ↔
      result = .ofEnding (ScanLog.examine disk examiner file) := by
  constructor
  · intro comes
    cases comes with
    | unreadable unread => simp [ScanLog.examine, unread, FileResult.ofEnding]
    | refused isText ends =>
        simp [ScanLog.examine, isText, ends, FileResult.ofEnding]
    | failed isText ends =>
        simp [ScanLog.examine, isText, ends, FileResult.ofEnding]
    | interrupted isText ends =>
        simp [ScanLog.examine, isText, ends, FileResult.ofEnding]
    | completed isText ends =>
        simp [ScanLog.examine, isText, ends, FileResult.ofEnding]
  · rintro rfl
    rw [ScanLog.examine]
    cases isText : disk.text? file with
    | none => exact .unreadable isText
    | some text =>
        rw [Option.map_some]
        cases ends : examiner file text with
        | finished ledger => exact .completed isText ends
        | refused reason => exact .refused isText ends
        | failed reason => exact .failed isText ends
        | interrupted => exact .interrupted isText ends

theorem comesTo_map (disk : Disk) (examiner : Examiner) (files : List String) :
    List.Forall₂ (ComesTo disk examiner) files
      (files.map fun file => .ofEnding (ScanLog.examine disk examiner file)) := by
  rw [List.forall₂_map_right_iff, List.forall₂_same]
  intro file _
  exact comesTo_iff.mpr rfl

/-! ## The whole scan -/

open ScanLog in
/-- However a scan ends, there is a number of first files that it is a scan of.
None of them is interrupted, and the three results of the scan tell of these
files only: the issues of the completed ones in a row, their number, and the
skipped ones with their reasons.  The scan counts as broken off exactly when
there were more files.  The caller is asked once before each file that is
started, and once more when the answer is what ended the scan. -/
theorem Scan.ofFiles_is_scan_of_first_files
    (disk : Disk) (examiner : Examiner) (stop : Option StopRule)
    (files : List String) :
    (∀ settings target,
      Scan.files disk settings target = .ok files →
        Scan.run disk settings examiner stop target =
          .ok (ofFiles disk examiner stop files)) ∧
      ∃ done started unheeded results,
        done ≤ files.length ∧
          List.Forall₂ (ComesTo disk examiner) (files.take done) results ∧
          (∀ result ∈ results, result ≠ .interrupted) ∧
          (ofFiles disk examiner stop files).scan.ledger.issues =
            results.flatMap FileResult.issues ∧
          (ofFiles disk examiner stop files).scan.filesScanned =
            results.countP FileResult.isCompleted ∧
          (ofFiles disk examiner stop files).scan.skipped =
            (((files.take done).zip results).filterMap fun item =>
              item.2.skippedFile? item.1) ∧
          (ofFiles disk examiner stop files).scan.filesScanned +
              (ofFiles disk examiner stop files).scan.skipped.length =
            done ∧
          ((ofFiles disk examiner stop files).scan.cancelled = true ↔
            done < files.length) ∧
          (∀ rule, stop = some rule → ∀ index < done, rule index = false) ∧
          Stopped stop (fun file => ComesTo disk examiner file .interrupted)
            files done started unheeded ∧
          (ofFiles disk examiner stop files).polls =
            questions stop (started + unheeded) := by
  constructor
  · intro settings target found
    rw [run, found, Except.map]
  obtain ⟨done, started, unheeded, covers⟩ :=
    exists_covers stop (examine disk examiner) files {} rfl
  -- The log before the first file is empty, so no question was asked.
  have fresh : answersAfter stop ({} : ScanLog).polls = stop := by
    cases stop <;> simp [answersAfter]
  have issues := covers.issues.trans (List.nil_append _)
  have scanned := covers.scanned.trans (Nat.zero_add _)
  have skipped := covers.skipped.trans (List.nil_append _)
  have polls := covers.polls.trans (Nat.zero_add _)
  have counted :=
    countP_isFinished_add_length_skipped (files.take done) covers.undisturbed
  rw [List.length_take, Nat.min_eq_left covers.bound] at counted
  have interrupts : (fun file => ComesTo disk examiner file .interrupted) =
      fun file => examine disk examiner file = some .interrupted := by
    funext file
    exact propext (comesTo_iff.trans
      (eq_comm.trans (FileResult.ofEnding_eq_interrupted_iff _)))
  have stopped := covers.stopped
  rw [fresh, ← interrupts] at stopped
  refine ⟨done, started, unheeded, _, covers.bound, comesTo_map _ _ _, ?_, ?_,
    ?_, ?_, ?_, covers.cancelled, ?_, stopped, polls⟩
  · intro result listed
    obtain ⟨file, isFirst, rfl⟩ := List.mem_map.mp listed
    rw [Ne, FileResult.ofEnding_eq_interrupted_iff]
    exact covers.undisturbed file isFirst
  · rw [List.flatMap_map]
    simp only [FileResult.issues_ofEnding]
    exact issues
  · rw [List.countP_map]
    simp only [Function.comp_def, FileResult.isCompleted_ofEnding]
    exact scanned
  · have paired := @List.zip_map' _ _ _ id
      (fun file => FileResult.ofEnding (examine disk examiner file))
      (files.take done)
    rw [List.map_id] at paired
    rw [paired, List.filterMap_map]
    simp only [Function.comp_def, id_eq, FileResult.skippedFile?_ofEnding]
    exact skipped
  · rw [ofFiles, scanned, skipped, counted]
  · intro rule answers index within
    refine covers.heeded rule ?_ index within
    rw [fresh, answers]

def mixedDisk : Disk where
  root :=
    .put "bad.js" (.file "mulDecimals(".toUTF8)
      (.put "odd.js" (.file "a ? b : c".toUTF8)
        (.put "fee.js" (.file "mulDecimals(fee)".toUTF8)
          (.put "halt.js" (.file "fee".toUTF8) .empty)))
  workDir := []

def feeLedger : Ledger :=
  ⟨[{ file := "fee.js", line := 1, column := 12, function := "mulDecimals",
      argument := 1, risk := { level := .high }, code := "fee" }]⟩

/-- An examiner that refuses one of these files, fails on another and is
interrupted in the last. -/
def mixedExaminer : Examiner :=
  fun file _ =>
    if file = "bad.js" then .refused "syntax error"
    else if file = "odd.js" then .failed "RecursionError: too deep"
    else if file = "halt.js" then .interrupted
    else .finished feeLedger

/-- The scan skips a file that is not there, one that is refused and one that
fails, each with its own reason, completes one, and is broken off in the
next. -/
theorem Scan.ofFiles_mixed :
    ∃ results,
      List.Forall₂ (ComesTo mixedDisk mixedExaminer)
          ["gone.js", "bad.js", "odd.js", "fee.js"] results ∧
        results.flatMap FileResult.issues = feeLedger.issues ∧
        ((["gone.js", "bad.js", "odd.js", "fee.js"].zip results).filterMap
            fun item => item.2.skippedFile? item.1) =
          [⟨"gone.js", "unreadable"⟩, ⟨"bad.js", "syntax error"⟩,
            ⟨"odd.js", "RecursionError: too deep"⟩] ∧
        ScanLog.Stopped (some fun _ => false)
          (fun file => ComesTo mixedDisk mixedExaminer file .interrupted)
          ["gone.js", "bad.js", "odd.js", "fee.js", "halt.js", "last.js"]
          4 5 0 := by
  obtain ⟨_, done, started, unheeded, results, _, come, _, issues, _, skipped,
    total, _, _, stopped, _⟩ :=
    Scan.ofFiles_is_scan_of_first_files mixedDisk mixedExaminer
      (some fun _ => false)
      ["gone.js", "bad.js", "odd.js", "fee.js", "halt.js", "last.js"]
  -- One file is completed and three are skipped.
  obtain rfl : 4 = done := total
  refine ⟨results, come, issues.symm, skipped.symm, ?_⟩
  cases stopped with
  | exhausted complete => cases complete
  | onRequest _ asked answer =>
      cases asked
      cases answer
  | interrupted placed broken allowed =>
      exact .interrupted placed broken allowed

end CallAudit
