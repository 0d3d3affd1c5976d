import CallAudit.Proofs.Issue.Sections
import CallAudit.Proofs.Outcome
import CallAudit.Proofs.Risk.Verdict
import CallAudit.Report.Display
import Mathlib.Data.List.Basic

/-!
# The parts of a report

What the plain report and the console list, written once, as parts of the plain
report: the console shows these very parts.
-/

namespace CallAudit

/-- An issue with a section to go to and suggestions that can be shown. -/
def Issue.IsPresentable (issue : Issue) : Prop :=
  issue.risk.level ≠ .none ∧ issue.risk.Renders

namespace Report

/-! ## What the console shows for a part -/

namespace PlainPart

def panel (disk : Disk) (number : Nat) (issue : Issue)
    (suggestions : List String) : Block :=
  .panel (.group (issueBody issue (disk.text? issue.file) suggestions))
    (some (.styled (issueTitle number issue)))
    { border := levelStyle issue.risk.level, padding := ⟨1, 2⟩ }

def blocks (disk : Disk) : PlainPart → List Block
  | .summary _ _ => []
  | .heading level issues =>
      [.rule
          (Markup.inStyle "bold white"
            (level.name ++ " risk (" ++ toString issues ++ " issues)"))
          (levelStyle level),
        .blank]
  | .entry number issue suggestions =>
      [panel disk number issue suggestions, .blank]
  | .advice lines =>
      [.panel (.styled (.ofParts (adviceParts lines)))
        (some (title "General Remediation"))
        { border := "yellow", padding := ⟨1, 2⟩ }]

end PlainPart

/-! ## Sections as parts -/

def entryPart (item : Nat × Issue) : PlainPart :=
  .entry item.1 item.2
    (Outcome.result (item.2.risk.suggestions.mapM suggestionText))

def sectionParts (level : Level) (issues : List Issue) : List PlainPart :=
  if issues.isEmpty then []
  else .heading level issues.length :: (numbered issues).map entryPart

/-- The parts for issues, level by level. -/
def bodyParts (issues : List Issue) : List PlainPart :=
  Level.reported.flatMap fun level =>
    sectionParts level (Issue.ofLevel level issues)

theorem map_fst_numbered {α : Type} (items : List α) :
    (numbered items).map Prod.fst = List.range' 1 items.length := by
  have shifted : (numbered items).map Prod.fst =
      (items.zipIdx.map Prod.snd).map (1 + ·) := by
    rw [numbered, List.map_map, List.map_map]
    apply List.map_congr_left
    intro item listed
    exact Nat.add_comm item.2 1
  rw [shifted, List.zipIdx_map_snd, List.map_add_range']

theorem map_snd_numbered {α : Type} (items : List α) :
    (numbered items).map Prod.snd = items := by
  rw [numbered, List.map_map]
  exact List.zipIdx_map_fst 0 items

theorem mem_of_mem_numbered {α : Type} {items : List α} {item : Nat × α}
    (listed : item ∈ numbered items) : item.2 ∈ items := by
  rw [← map_snd_numbered items]
  exact List.mem_map_of_mem listed

theorem exists_mem_numbered {α : Type} {items : List α} {item : α}
    (listed : item ∈ items) : ∃ number, (number, item) ∈ numbered items := by
  rw [← map_snd_numbered items] at listed
  obtain ⟨⟨number, found⟩, isFound, rfl⟩ := List.mem_map.mp listed
  exact ⟨number, isFound⟩

/-! ## Parts of a report that exists -/

theorem succeeds_suggestionTexts {issue : Issue}
    (presentable : issue.IsPresentable) :
    Succeeds (issue.risk.suggestions.mapM suggestionText) := by
  apply Succeeds.mapM
  intro suggestion listed
  exact Succeeds.mapError (presentable.2 suggestion listed) _

theorem plainEntry_eq {item : Nat × Issue}
    (presentable : item.2.IsPresentable) :
    plainEntry item = .ok (entryPart item) := by
  rw [plainEntry, (succeeds_suggestionTexts presentable).eq_ok]
  rfl

theorem issuePanel_eq (disk : Disk) {item : Nat × Issue}
    (presentable : item.2.IsPresentable) :
    issuePanel disk item = .ok (PlainPart.panel disk item.1 item.2
      (Outcome.result (item.2.risk.suggestions.mapM suggestionText))) := by
  rw [issuePanel, (succeeds_suggestionTexts presentable).eq_ok]
  rfl

section Sections

variable {part : Section} (filled : part.issues ≠ [])
  (presentable : ∀ issue ∈ part.issues, issue.IsPresentable)

include filled

theorem sectionParts_of_filled :
    sectionParts part.level part.issues =
      .heading part.level part.issues.length ::
        (numbered part.issues).map entryPart := by
  rw [sectionParts, if_neg (mt List.isEmpty_iff.mp filled)]

include presentable

theorem plainSection_eq :
    plainSection part = .ok (sectionParts part.level part.issues) := by
  have entries : (numbered part.issues).mapM plainEntry =
      .ok ((numbered part.issues).map entryPart) :=
    Outcome.mapM_eq_ok fun item listed =>
      plainEntry_eq (presentable item.2 (mem_of_mem_numbered listed))
  rw [plainSection, entries, sectionParts_of_filled filled]
  rfl

theorem sectionBlocks_eq (disk : Disk) :
    sectionBlocks disk part =
      .ok ((sectionParts part.level part.issues).flatMap
        (PlainPart.blocks disk)) := by
  have panels := Outcome.mapM_eq_ok fun item
      (listed : item ∈ numbered part.issues) =>
    issuePanel_eq disk (presentable item.2 (mem_of_mem_numbered listed))
  rw [sectionBlocks, panels, sectionParts_of_filled filled]
  simp only [Except.map, List.flatMap_cons, List.flatMap_map]
  rfl

end Sections

/-! ## The sections of a report -/

def filledSections (issues : List Issue) : List Section :=
  ((Level.reported.map fun level => (level, Issue.ofLevel level issues)).filter
    fun entry => !entry.2.isEmpty).map fun entry => ⟨entry.1, entry.2⟩

theorem sections_of_risky {issues : List Issue}
    (risky : ∀ issue ∈ issues, issue.risk.level ≠ .none) :
    sections issues = .ok (filledSections issues) := by
  rw [sections, Issue.sections_of_risky risky]
  rfl

theorem mem_filledSections_iff {issues : List Issue} {part : Section} :
    part ∈ filledSections issues ↔
      part.level ∈ Level.reported ∧ part.issues ≠ [] ∧
        part.issues = Issue.ofLevel part.level issues := by
  obtain ⟨level, listed⟩ := part
  simp only [filledSections, List.mem_map, List.mem_filter, Section.mk.injEq]
  constructor
  · rintro ⟨entry, ⟨⟨reported, isReported, rfl⟩, filled⟩, rfl, rfl⟩
    exact ⟨isReported, by simpa using filled, rfl⟩
  · rintro ⟨reported, filled, rfl⟩
    exact ⟨_, ⟨⟨level, reported, rfl⟩, by simpa using filled⟩, rfl, rfl⟩

theorem flatMap_filter_of_dropped {α β : Type} {items : List α}
    {keep : α → Bool} {f : α → List β}
    (dropped : ∀ item, keep item = false → f item = []) :
    (items.filter keep).flatMap f = items.flatMap f := by
  induction items with
  | nil =>
      rfl
  | cons item rest inductionHypothesis =>
      rw [List.flatMap_cons, ← inductionHypothesis]
      by_cases kept : keep item = true
      · rw [List.filter_cons_of_pos kept, List.flatMap_cons]
      · rw [List.filter_cons_of_neg kept,
          dropped item (Bool.eq_false_iff.mpr kept), List.nil_append]

theorem flatMap_filledSections (issues : List Issue) :
    (filledSections issues).flatMap
        (fun part => sectionParts part.level part.issues) =
      bodyParts issues := by
  rw [filledSections, List.flatMap_map, flatMap_filter_of_dropped,
    List.flatMap_map, bodyParts]
  intro entry dropped
  rw [sectionParts, if_pos (by simpa using dropped)]

/-- What answers every section with something about its parts answers all of
them with that about all parts. -/
theorem mapM_filledSections {β : Type} {issues : List Issue}
    {answer : Section → Except ReportFault (List β)} {f : PlainPart → List β}
    (each : ∀ part ∈ filledSections issues,
      answer part = .ok ((sectionParts part.level part.issues).flatMap f)) :
    ∃ bodies, (filledSections issues).mapM answer = .ok bodies ∧
      bodies.flatten = (bodyParts issues).flatMap f := by
  refine ⟨_, Outcome.mapM_eq_ok each, ?_⟩
  rw [← flatMap_filledSections, List.flatMap_assoc]
  rfl

/-! ## Reports that exist -/

section Presentable

variable {scan : Scan} {minLevel : String} {told : List Issue}
  (isChosen : chosen minLevel scan = .ok told)
  (presentable : ∀ issue ∈ told, issue.IsPresentable)

include presentable

theorem presentable_of_filledSections {part : Section}
    (listed : part ∈ filledSections told) :
    part.issues ≠ [] ∧ ∀ issue ∈ part.issues, issue.IsPresentable := by
  obtain ⟨_, filled, shape⟩ := mem_filledSections_iff.mp listed
  refine ⟨filled, ?_⟩
  intro issue inside
  rw [shape] at inside
  exact presentable issue (List.mem_filter.mp inside).1

include isChosen

theorem plainParts_eq :
    plainParts scan minLevel =
      .ok (.summary told.length scan.filesScanned ::
        (bodyParts told ++ [.advice remediation])) := by
  obtain ⟨bodies, areBodies, whole⟩ : ∃ bodies,
      (filledSections told).mapM plainSection = .ok bodies ∧
        bodies.flatten = (bodyParts told).flatMap fun part => [part] := by
    apply mapM_filledSections
    intro part listed
    obtain ⟨filled, shown⟩ :=
      presentable_of_filledSections presentable listed
    rw [plainSection_eq filled shown, List.flatMap_singleton']
  rw [List.flatMap_singleton'] at whole
  rw [plainParts, isChosen]
  simp only [bind, Except.bind, areBodies, whole,
    sections_of_risky fun issue listed => (presentable issue listed).1]
  rfl

theorem display_eq (disk : Disk) (target : String) (now : Moment) :
    display disk scan target minLevel now =
      .ok ([infoPanel target minLevel now, .blank,
          statisticsPanel scan told, .blank] ++
        if told.isEmpty then [nothingPanel]
        else (bodyParts told ++ [PlainPart.advice remediation]).flatMap
          (PlainPart.blocks disk)) := by
  obtain ⟨bodies, areBodies, whole⟩ : ∃ bodies,
      (filledSections told).mapM (sectionBlocks disk) = .ok bodies ∧
        bodies.flatten = (bodyParts told).flatMap (PlainPart.blocks disk) := by
    apply mapM_filledSections
    intro part listed
    obtain ⟨filled, shown⟩ :=
      presentable_of_filledSections presentable listed
    exact sectionBlocks_eq filled shown disk
  have found : findings disk told =
      .ok (if told.isEmpty then [nothingPanel]
        else (bodyParts told ++ [PlainPart.advice remediation]).flatMap
          (PlainPart.blocks disk)) := by
    rw [findings]
    split
    · rfl
    · simp only [bind, Except.bind, areBodies, whole, List.flatMap_append,
        sections_of_risky fun issue listed => (presentable issue listed).1]
      rfl
  rw [display, isChosen]
  simp only [bind, Except.bind, found]
  rfl

end Presentable

end Report

end CallAudit
