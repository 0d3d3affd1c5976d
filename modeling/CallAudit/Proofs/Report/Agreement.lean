import CallAudit.Proofs.Report.Presentable
import CallAudit.Proofs.Report.Record
import CallAudit.Proofs.Report.Shown
import CallAudit.Proofs.Report.Tally

/-!
# Reports of one scan agree

The report as data, the plain report and the report on the console tell of the
same issues, with the same numbers of them.
-/

namespace CallAudit

namespace Report

/-! ## A report needs its suggestions -/

theorem renders_of_suggestionTexts {issue : Issue}
    (shown : Succeeds (issue.risk.suggestions.mapM suggestionText)) :
    issue.risk.Renders := by
  intro suggestion listed
  obtain ⟨text, isText⟩ := shown.of_mapM suggestion listed
  exact ⟨text, Outcome.mapError_eq_ok_iff.mp isText⟩

theorem renders_of_issueDatum {issue : Issue}
    (shown : Succeeds (issueDatum issue)) : issue.risk.Renders := by
  intro suggestion listed
  have datum : Succeeds (suggestionDatum suggestion) :=
    shown.of_map.of_mapM suggestion listed
  obtain ⟨text, isText⟩ := datum.of_map
  exact ⟨text, Outcome.mapError_eq_ok_iff.mp isText⟩

/-- Sections that are answered have only issues that can be shown. -/
theorem renders_of_sections {β γ : Type} {issues : List Issue}
    {present : Nat × Issue → Except ReportFault β}
    {answer : Section → Except ReportFault γ}
    (risky : ∀ issue ∈ issues, issue.risk.level ≠ .none)
    (answered : Succeeds ((filledSections issues).mapM answer))
    (entries : ∀ part, Succeeds (answer part) →
      Succeeds ((numbered part.issues).mapM present))
    (shown : ∀ item, Succeeds (present item) →
      Succeeds (item.2.risk.suggestions.mapM suggestionText)) :
    ∀ issue ∈ issues, issue.risk.Renders := by
  intro issue listed
  have inside : issue ∈ Issue.ofLevel issue.risk.level issues := by
    simp [Issue.ofLevel, listed]
  have isSection : ⟨issue.risk.level, Issue.ofLevel issue.risk.level issues⟩ ∈
      filledSections issues :=
    mem_filledSections_iff.mpr
      ⟨Level.mem_reported_iff.mpr (risky issue listed),
        List.ne_nil_of_mem inside, rfl⟩
  obtain ⟨number, isNumbered⟩ := exists_mem_numbered inside
  exact renders_of_suggestionTexts (shown (number, issue)
    ((entries _ (answered.of_mapM _ isSection)).of_mapM _ isNumbered))

section Chosen

variable {scan : Scan} {minLevel : String} {told : List Issue}
  (isChosen : chosen minLevel scan = .ok told)

include isChosen

theorem renders_of_json {now : Moment}
    (reported : Succeeds (json scan minLevel now)) :
    ∀ issue ∈ told, issue.risk.Renders := by
  have items : Succeeds (told.mapM issueDatum) :=
    (reported.of_map.rest_of_bind isChosen).of_bind
  intro issue listed
  exact renders_of_issueDatum (items.of_mapM issue listed)

variable (risky : ∀ issue ∈ told, issue.risk.level ≠ .none)

include risky

theorem renders_of_plain (reported : Succeeds (plain scan minLevel)) :
    ∀ issue ∈ told, issue.risk.Renders := by
  have answered : Succeeds ((filledSections told).mapM plainSection) :=
    ((reported.of_map.rest_of_bind isChosen).rest_of_bind
      (sections_of_risky risky)).of_bind
  exact renders_of_sections risky answered
    (fun _ => Succeeds.of_map) (fun _ => Succeeds.of_map)

theorem renders_of_display {disk : Disk} {target : String} {now : Moment}
    (reported : Succeeds (display disk scan target minLevel now)) :
    ∀ issue ∈ told, issue.risk.Renders := by
  have found : Succeeds (findings disk told) :=
    (reported.rest_of_bind isChosen).of_bind
  -- Without issues the console shows no suggestion, and none is needed.
  by_cases empty : told.isEmpty = true
  · intro issue listed
    rw [List.isEmpty_iff.mp empty] at listed
    exact absurd listed List.not_mem_nil
  · rw [findings, if_neg empty] at found
    have answered : Succeeds ((filledSections told).mapM (sectionBlocks disk)) :=
      (found.rest_of_bind (sections_of_risky risky)).of_bind
    exact renders_of_sections risky answered
      (fun _ => Succeeds.of_map) (fun _ => Succeeds.of_map)

end Chosen

/-! ## Agreement -/

/-- The reports of a scan tell of the same issues and name the same numbers.

All of them are told from `told`, from `levels` and `functions`, which count
these issues by level and by function, and from `listing`, which has them in
sections.  What a report says is put down as such: the text of the data spells a
record, the plain report is one text, and the console shows texts. -/
structure Agree (scan : Scan) (minLevel : String) (told : List Issue)
    (levels : List (Level × Nat)) (functions : List (String × Nat))
    (listing : Listing) : Prop where
  asData : ∀ now, ∃ text datum, json scan minLevel now = .ok text ∧
    datum.Spells text ∧ TellsScan scan now told levels datum
  asText : plain scan minLevel =
    .ok (plainText told.length scan.filesScanned listing)
  onConsole : ∀ disk target now, ∃ blocks,
    display disk scan target minLevel now = .ok blocks ∧
      Block.textsOfAll blocks =
        consoleTexts scan target minLevel now told.length levels functions
          listing
  listed : listing.flatMap (fun part => part.2.map NumberedIssue.issue) =
    Issue.byGravity told
  sections : ∀ part ∈ listing, ∀ entry ∈ part.2,
    entry.issue.risk.level = part.1
  numbers : ∀ part ∈ listing,
    part.2.map NumberedIssue.number = List.range' 1 part.2.length
  suggestions : ∀ part ∈ listing, ∀ entry ∈ part.2,
    List.Forall₂ (fun suggestion text => suggestion.render = .ok text)
      entry.issue.risk.suggestions entry.suggestions
  headings : listing.map (fun part => (part.1, part.2.length)) = levels
  byLevel : IsTally (told.map fun issue => issue.risk.level) levels
  byFunction : IsTally (told.map Issue.function) functions
  levelTotal : (levels.map Prod.snd).sum = told.length
  functionTotal : (functions.map Prod.snd).sum = told.length
  falling : functions.Pairwise fun left right => right.2 ≤ left.2

theorem agree_of_presentable {scan : Scan} {minLevel : String}
    {told : List Issue} (isChosen : chosen minLevel scan = .ok told)
    (presentable : ∀ issue ∈ told, issue.IsPresentable) :
    Agree scan minLevel told (levelCounts told) (functionCounts told)
      (listingOf told) := by
  have risky : ∀ issue ∈ told, issue.risk.level ≠ .none :=
    fun issue listed => (presentable issue listed).1
  have byLevel := isTally_levelCounts risky
  have byFunction := isTally_functionCounts told
  constructor
  case asData =>
    intro now
    obtain ⟨text, reported⟩ :=
      succeeds_json_of_chosen isChosen presentable now
    obtain ⟨datum, spelt, tells⟩ := json_tells isChosen reported
    exact ⟨text, datum, reported, spelt, tells⟩
  case asText => exact plain_eq_plainText isChosen presentable
  case onConsole => exact exists_display isChosen presentable
  case listed => exact issues_listingOf risky
  case sections => exact level_listingOf
  case numbers => exact number_listingOf
  case suggestions => exact suggestions_listingOf presentable
  case headings => exact map_length_listingOf told
  case byLevel => exact byLevel
  case byFunction => exact byFunction
  case levelTotal => rw [byLevel.total, List.length_map]
  case functionTotal => rw [byFunction.total, List.length_map]
  case falling => exact functionCounts_pairwise told

end Report

/-- For a known level, either all reports of a scan tell of the issues of at
least that level, and agree on them, or none of them exists, since one of these
issues has a suggestion that cannot be shown. -/
theorem Scan.reports_agree (scan : Scan) (minLevel : String)
    (known : minLevel ∈ Settings.levelNames)
    (risky : ∀ issue ∈ scan.ledger.issues, issue.risk.level ≠ .none) :
    ∃ threshold told, Level.ofName? minLevel = some threshold ∧
      told = scan.ledger.issues.filter
        (fun issue => threshold ≤ issue.risk.level) ∧
      ((∀ issue ∈ told, issue.risk.Renders) →
        ∃ levels functions listing,
          Report.Agree scan minLevel told levels functions listing) ∧
      ((¬ ∀ issue ∈ told, issue.risk.Renders) →
        (∀ now, ¬ Succeeds (Report.json scan minLevel now)) ∧
          ¬ Succeeds (Report.plain scan minLevel) ∧
          ∀ disk target now,
            ¬ Succeeds (Report.display disk scan target minLevel now)) := by
  obtain ⟨threshold, _, rfl⟩ := List.mem_map.mp known
  have isChosen : Report.chosen threshold.name scan =
      .ok (Issue.atLeast threshold scan.ledger.issues) := by
    rw [Report.chosen, Level.ofName?_name]
  have toldRisky : ∀ issue ∈ Issue.atLeast threshold scan.ledger.issues,
      issue.risk.level ≠ .none :=
    fun issue listed => risky issue (List.mem_filter.mp listed).1
  refine ⟨threshold, _, Level.ofName?_name threshold, rfl, ?_, ?_⟩
  · intro renders
    exact ⟨_, _, _, Report.agree_of_presentable isChosen
      fun issue listed => ⟨toldRisky issue listed, renders issue listed⟩⟩
  · intro hidden
    refine ⟨?_, ?_, ?_⟩
    · intro now reported
      exact hidden (Report.renders_of_json isChosen reported)
    · intro reported
      exact hidden (Report.renders_of_plain isChosen toldRisky reported)
    · intro disk target now reported
      exact hidden (Report.renders_of_display isChosen toldRisky reported)

def feeIssue (function : String) (risk : Risk) : Issue where
  file := "fee.js"
  line := 3
  column := 0
  function := function
  argument := 1
  risk := risk
  code := "fee"

/-- A scan with an issue of each level, the gravest one last. -/
def feeScan : Scan where
  ledger :=
    ⟨[feeIssue "mulDecimals" { level := .medium },
      feeIssue "addDecimals" { level := .low },
      feeIssue "divDecimals" (Verdict.ofName "fee" none)]⟩
  filesScanned := 1

theorem Scan.reports_agree_on_fees :
    ∃ levels functions listing,
      Report.Agree feeScan "MEDIUM"
          [feeIssue "mulDecimals" { level := .medium },
            feeIssue "divDecimals" (Verdict.ofName "fee" none)]
          levels functions listing ∧
        listing.flatMap
            (fun part => part.2.map Report.NumberedIssue.issue) =
          [feeIssue "divDecimals" (Verdict.ofName "fee" none),
            feeIssue "mulDecimals" { level := .medium }] := by
  obtain ⟨threshold, told, named, isTold, agreeing, _⟩ :=
    Scan.reports_agree feeScan "MEDIUM" (by decide) (by decide)
  obtain rfl : threshold = .medium := by
    simpa [Level.ofName?] using named.symm
  have toldOf : told =
      [feeIssue "mulDecimals" { level := .medium },
        feeIssue "divDecimals" (Verdict.ofName "fee" none)] := isTold
  have renders : ∀ issue ∈ told, issue.risk.Renders := by
    intro issue listed
    rw [toldOf] at listed
    rcases List.mem_pair.mp listed with rfl | rfl
    · intro suggestion listed
      exact absurd listed List.not_mem_nil
    · exact Verdict.ofName_renders "fee" none
  obtain ⟨levels, functions, listing, agree⟩ := agreeing renders
  rw [toldOf] at agree
  refine ⟨levels, functions, listing, agree, ?_⟩
  rw [agree.listed, ← Issue.flatMap_ofLevel_eq_byGravity (by decide)]
  rfl

end CallAudit
