import CallAudit.Proofs.Report.Parts
import CallAudit.Report.Record
import CallAudit.Settings.Basic

/-!
# Every scan has a report

A report can fail in three ways: its least level is unknown, an issue has a
level without a section, or a suggestion lacks a parameter.  None of them
happens when the settings were checked and the issues are those of an audit,
whichever form the report takes.
-/

namespace CallAudit

/-! ## Issues that can be shown -/

namespace Issue

theorem IsPresentable.level_mem_reported {issue : Issue}
    (presentable : issue.IsPresentable) :
    issue.risk.level ∈ Level.reported :=
  Level.mem_reported_iff.mpr presentable.1

/-- Issues that can be shown go to the sections of their levels. -/
theorem sections_eq {issues : List Issue}
    (presentable : ∀ issue ∈ issues, issue.IsPresentable) :
    sections issues =
      .ok (Level.reported.map fun level => (level, ofLevel level issues)) :=
  sections_of_risky fun issue listed => (presentable issue listed).1

end Issue

namespace Report

theorem succeeds_issueDatum {issue : Issue}
    (presentable : issue.IsPresentable) : Succeeds (issueDatum issue) := by
  refine Succeeds.map (Succeeds.mapM _ ?_) _
  intro suggestion listed
  exact (Succeeds.mapError (presentable.2 suggestion listed) _).map _

theorem succeeds_json_of_chosen {scan : Scan} {minLevel : String}
    {told : List Issue} (isChosen : chosen minLevel scan = .ok told)
    (presentable : ∀ issue ∈ told, issue.IsPresentable) (now : Moment) :
    Succeeds (json scan minLevel now) := by
  obtain ⟨data, isData⟩ : Succeeds (told.mapM issueDatum) := by
    apply Succeeds.mapM
    intro issue listed
    exact succeeds_issueDatum (presentable issue listed)
  refine Succeeds.map ?_ _
  rw [recordOf, isChosen]
  simp only [bind, Except.bind, isData]
  exact ⟨_, rfl⟩

/-- A known level chooses some of the issues. -/
theorem exists_chosen {minLevel : String} (scan : Scan)
    (known : minLevel ∈ Settings.levelNames) :
    ∃ issues, chosen minLevel scan = .ok issues ∧
      ∀ issue ∈ issues, issue ∈ scan.ledger.issues := by
  obtain ⟨level, _, rfl⟩ := List.mem_map.mp known
  refine ⟨_, by rw [chosen, Level.ofName?_name], ?_⟩
  intro issue listed
  exact (List.mem_filter.mp listed).1

/-! ## The three reports -/

section Reports

variable {scan : Scan} {minLevel : String}
  (known : minLevel ∈ Settings.levelNames)
  (presentable : ∀ issue ∈ scan.ledger.issues, issue.IsPresentable)

include known presentable

theorem succeeds_json (now : Moment) : Succeeds (json scan minLevel now) := by
  obtain ⟨issues, isChosen, inside⟩ := exists_chosen scan known
  exact succeeds_json_of_chosen isChosen
    (fun issue listed => presentable issue (inside issue listed)) now

theorem succeeds_plain : Succeeds (plain scan minLevel) := by
  obtain ⟨issues, isChosen, inside⟩ := exists_chosen scan known
  have parts := plainParts_eq isChosen fun issue listed =>
    presentable issue (inside issue listed)
  exact Succeeds.map ⟨_, parts⟩ _

theorem succeeds_display (disk : Disk) (target : String) (now : Moment) :
    Succeeds (display disk scan target minLevel now) := by
  obtain ⟨issues, isChosen, inside⟩ := exists_chosen scan known
  have shown := fun issue listed => presentable issue (inside issue listed)
  exact ⟨_, display_eq isChosen shown disk target now⟩

end Reports

theorem style_of_reported {level : Level} (reported : level ∈ Level.reported) :
    levelStyle level ≠ "" ∧ badgeStyle level ≠ "" := by
  revert level
  decide

end Report

/-! ## Everything at once -/

/-- Nothing is missing that the reports of a scan look up. -/
structure Scan.IsReported (scan : Scan) (minLevel : String) : Prop where
  level : ∀ issue ∈ scan.ledger.issues, issue.risk.level ∈ Level.reported
  style : ∀ issue ∈ scan.ledger.issues,
    Report.levelStyle issue.risk.level ≠ "" ∧
      Report.badgeStyle issue.risk.level ≠ ""
  suggestion : ∀ issue ∈ scan.ledger.issues,
    ∀ suggestion ∈ issue.risk.suggestions,
      suggestion.IsFilled ∧ Succeeds suggestion.render
  datum : ∀ issue ∈ scan.ledger.issues, Succeeds (Report.issueDatum issue)
  chosen : Succeeds (Report.chosen minLevel scan)
  bucket : ∀ issues, (∀ issue ∈ issues, issue ∈ scan.ledger.issues) →
    ∃ buckets, Issue.sections issues = .ok buckets ∧
      ∀ issue ∈ issues, ∃ bucket,
        (issue.risk.level, bucket) ∈ buckets ∧ issue ∈ bucket
  json : ∀ now, Succeeds (Report.json scan minLevel now)
  plain : Succeeds (Report.plain scan minLevel)
  display : ∀ disk target now,
    Succeeds (Report.display disk scan target minLevel now)

/-- A scan with issues that can be shown is reported under every known
level. -/
theorem Scan.isReported {scan : Scan} {minLevel : String}
    (known : minLevel ∈ Settings.levelNames)
    (presentable : ∀ issue ∈ scan.ledger.issues, issue.IsPresentable) :
    scan.IsReported minLevel where
  level issue listed := (presentable issue listed).level_mem_reported
  style issue listed :=
    Report.style_of_reported (presentable issue listed).level_mem_reported
  suggestion issue listed suggestion inside := by
    have shown := (presentable issue listed).2 suggestion inside
    exact ⟨suggestion.renders_iff_isFilled.mp shown, shown⟩
  datum issue listed := Report.succeeds_issueDatum (presentable issue listed)
  chosen := by
    obtain ⟨issues, isChosen, _⟩ := Report.exists_chosen scan known
    exact ⟨issues, isChosen⟩
  bucket issues within := by
    have shown := fun issue listed => presentable issue (within issue listed)
    refine ⟨_, Issue.sections_eq shown, ?_⟩
    intro issue listed
    refine ⟨Issue.ofLevel issue.risk.level issues, ?_, ?_⟩
    · exact List.mem_map.mpr
        ⟨issue.risk.level, (shown issue listed).level_mem_reported, rfl⟩
    · simp [Issue.ofLevel, listed]
  json := Report.succeeds_json known presentable
  plain := Report.succeeds_plain known presentable
  display := Report.succeeds_display known presentable

end CallAudit
