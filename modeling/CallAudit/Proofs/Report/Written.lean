import CallAudit.Proofs.Report.Parts
import CallAudit.Proofs.Report.Tally

/-!
# What the reports for people say

A listing is a row of levels with their numbered issues.  The plain report and
the report on the console are told from it, each in its own words: the text of
the one is `Report.plainText`, and the other shows `Report.consoleTexts`.

Both reports of a scan keep to one listing, `Report.listingOf`: the levels fall,
every issue stands once, and the numbers of a level begin with one.
-/

namespace CallAudit.Report

/-- An issue with its number in its section and the texts of its suggestions. -/
structure NumberedIssue where
  number : Nat
  issue : Issue
  suggestions : List String

/-- The sections of a report: levels with their issues. -/
abbrev Listing := List (Level × List NumberedIssue)

/-! ## The plain text -/

/-- A line of seventy equals signs. -/
def doubleLine : String :=
  "======================================================================\n"

def NumberedIssue.text (entry : NumberedIssue) : String :=
  String.join
    ["\n", toString entry.number, ". ", entry.issue.file, ":",
      toString entry.issue.line, ":", toString entry.issue.column, "\n",
      "   Function: ", entry.issue.function, "(), argument: ",
      toString entry.issue.argument, "\n",
      "   Problem: ", entry.issue.risk.reason, "\n",
      "   Code: ", entry.issue.code, "\n",
      if entry.suggestions.isEmpty then ""
      else String.join ("   Suggestions:\n" ::
        entry.suggestions.map fun text => "   - " ++ text ++ "\n")]

def sectionText (part : Level × List NumberedIssue) : String :=
  String.join
    ["\n", part.1.name, " risk (", toString part.2.length, " issues)\n",
      doubleLine, String.join (part.2.map NumberedIssue.text)]

def adviceText (advice : List String) : String :=
  String.join
    ["\n\nGeneral remediation:\n", doubleLine,
      String.join (advice.zipIdx.map fun line =>
        String.join [toString (line.2 + 1), ". ", line.1, "\n"])]

/-- How many issues there are in how many files, the sections and the advice. -/
def plainText (issues filesScanned : Nat) (listing : Listing) : String :=
  String.join
    ["decimalguard: ", toString issues, " potential issue(s) in ",
      toString filesScanned, " file(s)\n",
      String.join (listing.map sectionText), adviceText remediation]

/-! ## The listing of a report -/

def numberedIssue (item : Nat × Issue) : NumberedIssue :=
  ⟨item.1, item.2,
    Outcome.result (item.2.risk.suggestions.mapM suggestionText)⟩

def listingOf (issues : List Issue) : Listing :=
  (filledSections issues).map fun part =>
    (part.level, (numbered part.issues).map numberedIssue)

def NumberedIssue.part (entry : NumberedIssue) : PlainPart :=
  .entry entry.number entry.issue entry.suggestions

def partsOf (part : Level × List NumberedIssue) : List PlainPart :=
  .heading part.1 part.2.length :: part.2.map NumberedIssue.part

theorem bodyParts_eq_flatMap (issues : List Issue) :
    bodyParts issues = (listingOf issues).flatMap partsOf := by
  rw [← flatMap_filledSections, listingOf, List.flatMap_map]
  apply List.flatMap_congr
  intro part listed
  have filled := (mem_filledSections_iff.mp listed).2.1
  rw [sectionParts_of_filled filled, partsOf, List.length_map, List.map_map]
  have count : (numbered part.issues).length = part.issues.length := by
    simp [numbered]
  rw [count]
  rfl

section Listing

variable {issues : List Issue}

theorem mem_listingOf_iff {part : Level × List NumberedIssue} :
    part ∈ listingOf issues ↔
      ∃ filled ∈ filledSections issues,
        (filled.level, (numbered filled.issues).map numberedIssue) = part :=
  List.mem_map

theorem number_listingOf : ∀ part ∈ listingOf issues,
    part.2.map NumberedIssue.number = List.range' 1 part.2.length := by
  intro part listed
  obtain ⟨filled, isFilled, rfl⟩ := mem_listingOf_iff.mp listed
  have count : (numbered filled.issues).length = filled.issues.length := by
    simp [numbered]
  rw [List.map_map, List.length_map, count, ← map_fst_numbered]
  rfl

theorem level_listingOf : ∀ part ∈ listingOf issues, ∀ entry ∈ part.2,
    entry.issue.risk.level = part.1 := by
  intro part listed entry inside
  obtain ⟨filled, isFilled, rfl⟩ := mem_listingOf_iff.mp listed
  obtain ⟨item, isNumbered, rfl⟩ := List.mem_map.mp inside
  have isIssue := mem_of_mem_numbered isNumbered
  rw [(mem_filledSections_iff.mp isFilled).2.2] at isIssue
  exact Issue.level_of_mem_ofLevel isIssue

theorem map_length_listingOf (issues : List Issue) :
    (listingOf issues).map (fun part => (part.1, part.2.length)) =
      levelCounts issues := by
  -- A level is left out of the sections and of the counts on one condition.
  have isFilled : ∀ level,
      (!(Issue.ofLevel level issues).isEmpty) =
        ((Issue.ofLevel level issues).length != 0) := by
    intro level
    cases Issue.ofLevel level issues with
    | nil => rfl
    | cons issue rest => rfl
  rw [listingOf, filledSections, levelCounts, List.filter_map, List.filter_map,
    List.map_map, List.map_map, List.map_map]
  simp only [Function.comp_def, isFilled, List.length_map, numbered,
    List.length_zipIdx]

theorem issues_listingOf (risky : ∀ issue ∈ issues, issue.risk.level ≠ .none) :
    (listingOf issues).flatMap (fun part =>
      part.2.map NumberedIssue.issue) = Issue.byGravity issues := by
  have unnumbered : ∀ part : Section,
      ((numbered part.issues).map numberedIssue).map NumberedIssue.issue =
        part.issues := by
    intro part
    rw [List.map_map]
    exact map_snd_numbered part.issues
  rw [← Issue.flatMap_ofLevel_eq_byGravity risky, listingOf, List.flatMap_map]
  simp only [unnumbered]
  rw [filledSections, List.flatMap_map, flatMap_filter_of_dropped,
    List.flatMap_map]
  intro entry dropped
  simpa using dropped

theorem suggestions_listingOf
    (presentable : ∀ issue ∈ issues, issue.IsPresentable) :
    ∀ part ∈ listingOf issues, ∀ entry ∈ part.2,
      List.Forall₂ (fun suggestion text => suggestion.render = .ok text)
        entry.issue.risk.suggestions entry.suggestions := by
  intro part listed entry inside
  obtain ⟨filled, isFilled, rfl⟩ := mem_listingOf_iff.mp listed
  obtain ⟨item, isNumbered, rfl⟩ := List.mem_map.mp inside
  have isIssue := mem_of_mem_numbered isNumbered
  rw [(mem_filledSections_iff.mp isFilled).2.2] at isIssue
  have shown := presentable item.2 (List.mem_filter.mp isIssue).1
  refine Outcome.forall₂_of_mapM ?_ (succeeds_suggestionTexts shown).eq_ok
  intro suggestion text isText
  exact Outcome.mapError_eq_ok_iff.mp isText

end Listing

/-! ## Writing the text -/

/-- Lines, each with the line feed that ends it. -/
def ended (lines : List String) : String :=
  String.join (lines.map fun line => line ++ "\n")

theorem ended_nil : ended [] = "" :=
  rfl

theorem ended_cons (line : String) (rest : List String) :
    ended (line :: rest) = line ++ "\n" ++ ended rest :=
  String.join_cons

theorem ended_append (first second : List String) :
    ended (first ++ second) = ended first ++ ended second := by
  rw [ended, List.map_append, String.join_append]
  rfl

theorem join_flatMap {α : Type} (f : α → List String) (items : List α) :
    String.join (items.flatMap f) =
      String.join (items.map fun item => String.join (f item)) := by
  induction items with
  | nil =>
      rfl
  | cons item rest inductionHypothesis =>
      rw [List.flatMap_cons, String.join_append, inductionHypothesis,
        List.map_cons, String.join_cons]

/-- The lines of a row of things are written thing by thing. -/
theorem ended_flatMap {α : Type} (f : α → List String) (items : List α) :
    ended (items.flatMap f) =
      String.join (items.map fun item => ended (f item)) := by
  rw [ended, List.map_flatMap, join_flatMap]
  rfl

theorem underline_feed : doubleLine = underline ++ "\n" := by
  decide +kernel

theorem ended_suggestionLines (suggestions : List String) :
    ended (suggestionLines suggestions) =
      if suggestions.isEmpty then ""
      else String.join ("   Suggestions:\n" ::
        suggestions.map fun text => "   - " ++ text ++ "\n") := by
  rw [suggestionLines]
  split
  · rfl
  · rw [ended, List.map_cons, List.map_map]
    rfl

theorem ended_entry (entry : NumberedIssue) :
    ended entry.part.lines = entry.text := by
  rw [NumberedIssue.part, PlainPart.lines, ended_append,
    ended_suggestionLines, NumberedIssue.text, location]
  simp only [ended_cons, ended_nil, String.join_cons, String.join_nil,
    String.empty_append, String.append_empty, String.append_assoc]

theorem ended_partsOf (part : Level × List NumberedIssue) :
    ended ((partsOf part).flatMap PlainPart.lines) = sectionText part := by
  have entries : ended ((part.2.map NumberedIssue.part).flatMap
        PlainPart.lines) = String.join (part.2.map NumberedIssue.text) := by
    rw [List.flatMap_map, ended_flatMap]
    simp only [ended_entry]
  have feed : " issues)\n" = " issues)" ++ "\n" := rfl
  rw [partsOf, List.flatMap_cons, ended_append, entries, sectionText,
    underline_feed, feed]
  simp only [PlainPart.lines, ended_cons, ended_nil, String.join_cons,
    String.join_nil, String.empty_append, String.append_empty,
    String.append_assoc]

example :
    sectionText (.low, [⟨1,
        { file := "fee.js", line := 3, column := 0, function := "mulDecimals",
          argument := 2, risk := { level := .low, reason := "maybe empty" },
          code := "item.fee" },
        ["Give item.fee a fallback"]⟩]) =
      String.join
        ["\nLOW risk (1 issues)\n", doubleLine,
          "\n1. fee.js:3:0\n",
          "   Function: mulDecimals(), argument: 2\n",
          "   Problem: maybe empty\n",
          "   Code: item.fee\n",
          "   Suggestions:\n",
          "   - Give item.fee a fallback\n"] := by
  decide +kernel

theorem ended_advice (advice : List String) :
    ended (PlainPart.lines (.advice advice)) = adviceText advice := by
  have head : "\n\nGeneral remediation:\n" =
      "\n" ++ ("\n" ++ ("General remediation:" ++ "\n")) := rfl
  have entries : ended ((numbered advice).map fun line =>
        toString line.1 ++ ". " ++ line.2) =
      String.join (advice.zipIdx.map fun line =>
        String.join [toString (line.2 + 1), ". ", line.1, "\n"]) := by
    rw [ended, numbered, List.map_map, List.map_map]
    simp only [Function.comp_def, String.join_cons, String.join_nil,
      String.append_empty, String.append_assoc]
  rw [PlainPart.lines, ended_append, entries, adviceText, underline_feed, head]
  simp only [ended_cons, ended_nil, String.join_cons, String.join_nil,
    String.empty_append, String.append_empty, String.append_assoc]

section Presentable

variable {scan : Scan} {minLevel : String} {told : List Issue}
  (isChosen : chosen minLevel scan = .ok told)
  (presentable : ∀ issue ∈ told, issue.IsPresentable)

include isChosen presentable

theorem plain_eq_plainText :
    plain scan minLevel =
      .ok (plainText told.length scan.filesScanned (listingOf told)) := by
  have sections : ended ((bodyParts told).flatMap PlainPart.lines) =
      String.join ((listingOf told).map sectionText) := by
    rw [bodyParts_eq_flatMap, List.flatMap_assoc, ended_flatMap]
    simp only [ended_partsOf]
  have feed : " file(s)\n" = " file(s)" ++ "\n" := rfl
  have name : "decimalguard: " = program ++ ": " := rfl
  have whole : ended ((PlainPart.summary told.length scan.filesScanned ::
        (bodyParts told ++ [.advice remediation])).flatMap PlainPart.lines) =
      plainText told.length scan.filesScanned (listingOf told) := by
    rw [List.flatMap_cons, List.flatMap_append, List.flatMap_singleton,
      ended_append, ended_append, sections, ended_advice, plainText, feed, name]
    simp only [PlainPart.lines, ended_cons, ended_nil, String.join_cons,
      String.join_nil, String.append_empty, String.append_assoc]
  rw [plain, plainParts_eq isChosen presentable, ← whole]
  rfl

end Presentable

end CallAudit.Report
