import CallAudit.Console.Layout
import CallAudit.Proofs.Report.Written

/-!
# What the console shows

Blocks are read back as texts: the titles of frames, what stands in them and the
captions of tables, all without styles.  Excerpts of sources are left out.  For
a report on the console these texts are `Report.consoleTexts`, told from the
counts of a scan and from the listing that the plain report is told from.
-/

namespace CallAudit

/-! ## Reading blocks -/

namespace Block

mutual

/-- The texts of a block in their order, excerpts apart. -/
def texts : Block → List String
  | .blank => []
  | .message text => [Markup.shown text]
  | .styled text => if text.plain = "" then [] else [text.plain]
  | .panel inner title _ => (title.map captionText).toList ++ texts inner
  | .centered inner => texts inner
  | .group parts => textsOfAll parts
  | .columns parts => textsOfAll parts
  | .source _ => []
  | .rule title _ => [Markup.shown title]
  | .table rows => rows.flatMap fun row => [captionText row.1, captionText row.2]

def textsOfAll : List Block → List String
  | [] => []
  | block :: rest => texts block ++ textsOfAll rest

end

theorem textsOfAll_eq_flatMap (blocks : List Block) :
    textsOfAll blocks = blocks.flatMap texts := by
  induction blocks with
  | nil => rfl
  | cons block rest inductionHypothesis =>
      rw [textsOfAll, inductionHypothesis, List.flatMap_cons]

end Block

/-! ## Texts without control characters -/

namespace Text

/-- A text without bells, backspaces, vertical tabs, form feeds and carriage
returns, which the console never gets. -/
def visible (text : String) : String :=
  String.ofList (text.toList.filter fun c => c.toNat ∉ [7, 8, 11, 12, 13])

theorem visible_append (first second : String) :
    visible (first ++ second) = visible first ++ visible second := by
  rw [visible, String.toList_append, List.filter_append, String.ofList_append]
  rfl

theorem visible_append_ne_empty {first : String} (seen : visible first ≠ "")
    (second : String) : visible (first ++ second) ≠ "" := by
  rw [visible_append]
  intro empty
  exact seen (String.append_eq_empty_iff.mp empty).1

end Text

open Text (visible)

namespace Styled

theorem cleaned_eq_visible (text : String) : cleaned text = visible text := by
  rw [cleaned, visible]
  congr 2
  funext c
  simp [isControl]

theorem plain_foldl (parts : List (String × String)) (styled : Styled) :
    (parts.foldl (fun whole part => whole.append part.1 part.2) styled).plain =
      styled.plain ++ visible (String.join (parts.map Prod.fst)) := by
  induction parts generalizing styled with
  | nil =>
      exact String.append_empty.symm
  | cons part rest inductionHypothesis =>
      rw [List.foldl_cons, inductionHypothesis, List.map_cons, String.join_cons,
        Text.visible_append, ← String.append_assoc, ← cleaned_eq_visible part.1]
      rfl

theorem plain_ofParts (parts : List (String × String)) :
    (ofParts parts).plain = visible (String.join (parts.map Prod.fst)) := by
  rw [ofParts, plain_foldl]
  exact String.empty_append

theorem plain_ofText (text style : String) :
    (ofText text style).plain = visible text :=
  cleaned_eq_visible text

end Styled

theorem Block.texts_ofParts {first style : String}
    (seen : visible first ≠ "") (rest : List (String × String)) :
    (Block.styled (.ofParts ((first, style) :: rest))).texts =
      [visible (String.join (first :: rest.map Prod.fst))] := by
  have plain := Styled.plain_ofParts ((first, style) :: rest)
  rw [List.map_cons] at plain
  rw [texts, plain, if_neg]
  rw [String.join_cons]
  exact Text.visible_append_ne_empty seen _

/-! ## Markup without brackets -/

namespace Markup

/-- A text that has nothing in it that markup gives a meaning to. -/
def IsBare (text : String) : Prop :=
  ∀ c ∈ text.toList, c ≠ '[' ∧ c ≠ '\\'

instance (text : String) : Decidable (IsBare text) :=
  List.decidableBAll _ _

theorem IsBare.append {first second : String} (bare : IsBare first)
    (rest : IsBare second) : IsBare (first ++ second) := by
  intro c listed
  rw [String.toList_append, List.mem_append] at listed
  exact listed.elim (bare c) (rest c)

theorem isBare_toString (number : Nat) : IsBare (toString number) := by
  intro c listed
  rw [Nat.toString_eq_ofList_toDigits, String.toList_ofList] at listed
  have digit := Nat.isDigit_of_mem_toDigits (by decide) (by decide) listed
  refine ⟨?_, ?_⟩
  · rintro rfl
    exact absurd digit (by decide)
  · rintro rfl
    exact absurd digit (by decide)

theorem shownFrom_append {chars : List Char}
    (bare : ∀ c ∈ chars, c ≠ '[' ∧ c ≠ '\\') (rest : List Char) :
    shownFrom false 0 (chars ++ rest) = chars ++ shownFrom false 0 rest := by
  induction chars with
  | nil =>
      rfl
  | cons c others inductionHypothesis =>
      obtain ⟨noBracket, noBackslash⟩ := bare c List.mem_cons_self
      have next := inductionHypothesis fun other listed =>
        bare other (List.mem_cons_of_mem c listed)
      simp [shownFrom, noBracket, noBackslash, next]

theorem shown_of_bare {text : String} (bare : IsBare text) :
    shown text = text := by
  have whole := shownFrom_append bare []
  rw [List.append_nil] at whole
  rw [shown, whole, shownFrom]
  simp

/-- A text in the style of titles is shown without the tags around it. -/
theorem shown_inStyle {text : String} (bare : IsBare text) :
    shown (inStyle "bold white" text) = text := by
  have opening : ∀ rest, shownFrom false 0 ("[bold white]".toList ++ rest) =
      shownFrom false 0 rest := by
    intro rest
    simp [shownFrom, isTag, startsTag, closes]
  have closing : shownFrom false 0 "[/bold white]".toList = [] := by
    decide
  have tags : (inStyle "bold white" text).toList =
      "[bold white]".toList ++ (text.toList ++ "[/bold white]".toList) := by
    simp [inStyle]
  -- Both tags are passed over, and nothing between them is taken for one.
  rw [shown, tags, opening, shownFrom_append bare, closing]
  simp

end Markup

namespace Report

open Markup (IsBare isBare_toString)

/-! ## The texts of a report -/

def NumberedIssue.texts (entry : NumberedIssue) : List String :=
  [visible (String.join
      [" ", entry.issue.risk.level.name, "  ", toString entry.number, ". ",
        entry.issue.function, "() argument ", toString entry.issue.argument,
        " "]),
    visible (String.join
      ["Location: ", entry.issue.file, ":", toString entry.issue.line, ":",
        toString entry.issue.column]),
    visible (String.join ["Argument: ", entry.issue.code]),
    visible (String.join ["\n", entry.issue.risk.reason])] ++
  if entry.suggestions.isEmpty then []
  else [visible (String.join ("\nSuggestions:" ::
    entry.suggestions.map fun text => "\n  - " ++ text))]

def sectionTexts (part : Level × List NumberedIssue) : List String :=
  String.join [part.1.name, " risk (", toString part.2.length, " issues)"] ::
    part.2.flatMap NumberedIssue.texts

/-- The texts about a whole scan: row by row a caption and a number. -/
def statisticsTexts (scan : Scan) (issues : Nat)
    (levels : List (Level × Nat)) (functions : List (String × Nat)) :
    List String :=
  ["Scan Statistics",
    "Files Scanned", toString scan.filesScanned,
    "Files Skipped", toString scan.skipped.length,
    "Total Issues", toString issues,
    "Scan Time", Markup.shown (scan.elapsed.fixedText 2 ++ "s"),
    "", ""] ++
  levels.flatMap (fun entry => [entry.1.name, toString entry.2]) ++
  ["", ""] ++
  functions.flatMap fun entry => [visible (entry.1 ++ "()"), toString entry.2]

def infoTexts (target minLevel : String) (now : Moment) : List String :=
  ["Scan Info",
    visible (String.join
      ["Target: ", target, "  ", "Date: ", now.plainText, "  ", "Level: ",
        ">= ", minLevel])]

def adviceTexts (advice : List String) : List String :=
  ["General Remediation",
    visible (String.join (advice.zipIdx.map fun line =>
      String.join
        [if line.2 = 0 then "" else "\n", toString (line.2 + 1), ". ",
          line.1]))]

/-- What the console shows: what was scanned, the numbers, and the sections with
the advice, or else that there is no issue. -/
def consoleTexts (scan : Scan) (target minLevel : String) (now : Moment)
    (issues : Nat) (levels : List (Level × Nat))
    (functions : List (String × Nat)) (listing : Listing) : List String :=
  infoTexts target minLevel now ++
    statisticsTexts scan issues levels functions ++
    if issues = 0 then ["No risky arguments found."]
    else listing.flatMap sectionTexts ++ adviceTexts remediation

/-! ## Reading a report -/

theorem captionText_title {text : String} (bare : IsBare text) :
    Block.captionText (title text) = text :=
  Markup.shown_inStyle bare

theorem texts_infoPanel (target minLevel : String) (now : Moment) :
    (infoPanel target minLevel now).texts = infoTexts target minLevel now := by
  have seen : visible "Target: " ≠ "" := by
    decide
  have bare : IsBare "Scan Info" := by
    decide
  rw [infoPanel, Block.texts, Block.texts, Block.texts_ofParts seen,
    Option.map_some, captionText_title bare, infoTexts]
  simp only [List.map_cons, List.map_nil, String.join_cons, String.join_nil,
    String.append_assoc, Option.toList_some, List.singleton_append,
    String.append_empty]

theorem visible_name (level : Level) : visible level.name = level.name := by
  cases level <;> decide

def rowTexts (row : Caption × Caption) : List String :=
  [Block.captionText row.1, Block.captionText row.2]

theorem rowTexts_countRow (name style : String) (count : Nat) :
    rowTexts (countRow name style count) = [visible name, toString count] := by
  rw [rowTexts, countRow, Block.captionText, Block.captionText,
    Styled.plain_ofText, Markup.shown_of_bare (isBare_toString count)]

theorem rowTexts_plainRow {key : String} (bare : IsBare key) (value : String) :
    rowTexts (plainRow key value) = [key, Markup.shown value] := by
  rw [rowTexts, plainRow, Block.captionText, Block.captionText,
    Markup.shown_of_bare bare]

theorem texts_statisticsPanel (scan : Scan) (issues : List Issue) :
    (statisticsPanel scan issues).texts =
      statisticsTexts scan issues.length (levelCounts issues)
        (functionCounts issues) := by
  have bare : ∀ key ∈ ["Scan Statistics", "Files Scanned", "Files Skipped",
      "Total Issues", "Scan Time", ""], IsBare key := by
    decide
  have count : ∀ number : Nat, Markup.shown (toString number) =
      toString number :=
    fun number => Markup.shown_of_bare (isBare_toString number)
  have reading : ∀ rows, (Block.table rows).texts = rows.flatMap rowTexts :=
    fun rows => rfl
  rw [statisticsPanel, Block.texts, reading, Option.map_some,
    captionText_title (bare _ (by simp)), statisticsRows]
  simp only [List.flatMap_append, List.flatMap_map, List.flatMap_cons,
    List.flatMap_nil, rowTexts_countRow, visible_name, statisticsTexts]
  rw [rowTexts_plainRow (bare _ (by simp)), rowTexts_plainRow (bare _ (by simp)),
    rowTexts_plainRow (bare _ (by simp)), rowTexts_plainRow (bare _ (by simp)),
    rowTexts_plainRow (bare _ (by simp)), count, count, count]
  rfl

theorem texts_nothingPanel :
    nothingPanel.texts = ["No risky arguments found."] := by
  decide +kernel

theorem join_adviceParts (advice : List String) :
    String.join ((adviceParts advice).map Prod.fst) =
      String.join (advice.zipIdx.map fun line =>
        String.join
          [if line.2 = 0 then "" else "\n", toString (line.2 + 1), ". ",
            line.1]) := by
  rw [adviceParts, numbered, List.map_flatMap, List.flatMap_map, join_flatMap]
  congr 1
  apply List.map_congr_left
  intro line listed
  by_cases isFirst : line.2 = 0
  · simp [isFirst, String.join_cons, String.append_assoc]
  · simp [isFirst, String.join_cons, String.append_assoc]

theorem texts_advice (disk : Disk) :
    (PlainPart.blocks disk (.advice remediation)).flatMap Block.texts =
      adviceTexts remediation := by
  have bare : IsBare "General Remediation" := by
    decide
  have seen : visible (toString 1 ++ ". ") ≠ "" := by
    decide
  -- A block whose text is empty is not read, so the first piece is needed.
  have shape : adviceParts remediation =
      (toString 1 ++ ". ", "bold yellow") :: (adviceParts remediation).tail :=
    rfl
  have whole : (Block.styled (.ofParts (adviceParts remediation))).texts =
      [visible (String.join ((adviceParts remediation).map Prod.fst))] := by
    rw [shape]
    exact Block.texts_ofParts seen _
  rw [PlainPart.blocks, List.flatMap_singleton, Block.texts, whole,
    join_adviceParts, Option.map_some, captionText_title bare, adviceTexts]
  rfl

theorem texts_issueHead (issue : Issue) :
    (issueHead issue).texts =
      [visible (String.join
          ["Location: ", issue.file, ":", toString issue.line, ":",
            toString issue.column]),
        visible (String.join ["Argument: ", issue.code])] := by
  have place : visible "Location: " ≠ "" := by
    decide
  have argument : visible "Argument: " ≠ "" := by
    decide
  rw [issueHead, Block.texts, Block.textsOfAll, Block.textsOfAll,
    Block.textsOfAll, Block.texts_ofParts place, Block.texts_ofParts argument,
    location]
  simp only [List.map_cons, List.map_nil, String.join_cons, String.join_nil,
    String.append_assoc, String.append_empty, List.append_nil,
    List.singleton_append]

theorem texts_reason (reason : String) :
    (Block.styled (.ofParts [("\n" ++ reason, "italic white")])).texts =
      [visible (String.join ["\n", reason])] := by
  have feed : visible "\n" ≠ "" := by
    decide
  rw [Block.texts_ofParts (Text.visible_append_ne_empty feed reason)]
  simp only [List.map_nil, String.join_cons, String.join_nil,
    String.append_empty]

theorem texts_suggestions (suggestions : List String) :
    (suggestionBlock suggestions).texts =
      [visible (String.join ("\nSuggestions:" ::
        suggestions.map fun text => "\n  - " ++ text))] := by
  have seen : visible "\nSuggestions:" ≠ "" := by
    decide
  rw [suggestionBlock, Block.texts_ofParts seen, List.map_map]
  rfl

/-- An excerpt adds no text. -/
theorem texts_excerpt (excerpt : Option Excerpt) :
    Block.textsOfAll ((excerpt.map fun shown =>
      [Block.styled .empty, .source shown]).getD []) = [] := by
  cases excerpt with
  | none => rfl
  | some shown => rfl

theorem texts_issueBody (issue : Issue) (text : Option String)
    (suggestions : List String) :
    Block.textsOfAll (issueBody issue text suggestions) =
      (issueHead issue).texts ++
        [visible (String.join ["\n", issue.risk.reason])] ++
        if suggestions.isEmpty then []
        else (suggestionBlock suggestions).texts := by
  have parts : ∀ first second, Block.textsOfAll (first ++ second) =
      Block.textsOfAll first ++ Block.textsOfAll second := by
    intro first second
    simp only [Block.textsOfAll_eq_flatMap, List.flatMap_append]
  rw [issueBody, parts, parts, texts_excerpt, List.append_nil]
  congr 1
  · rw [← texts_reason, Block.textsOfAll, Block.textsOfAll, Block.textsOfAll,
      List.append_nil]
  · split
    · rfl
    · rw [Block.textsOfAll, Block.textsOfAll, List.append_nil]

theorem texts_entry (disk : Disk) (entry : NumberedIssue) :
    (PlainPart.blocks disk entry.part).flatMap Block.texts = entry.texts := by
  have gap : "  " = " " ++ " " := rfl
  rw [NumberedIssue.part, PlainPart.blocks, List.flatMap_cons,
    List.flatMap_singleton, PlainPart.panel, Block.texts, Block.texts,
    Block.texts, texts_issueBody, texts_issueHead, texts_suggestions,
    Option.map_some, Block.captionText, issueTitle, Styled.plain_ofParts,
    NumberedIssue.texts, gap]
  simp only [List.map_cons, List.map_nil, String.join_cons, String.join_nil,
    String.append_assoc, String.append_empty, Option.toList_some,
    List.cons_append, List.nil_append, List.append_nil]

theorem texts_heading (disk : Disk) (level : Level) (issues : Nat) :
    (PlainPart.blocks disk (.heading level issues)).flatMap Block.texts =
      [String.join [level.name, " risk (", toString issues, " issues)"]] := by
  have bareName : IsBare level.name := by
    cases level <;> decide
  have bareWords : ∀ text ∈ [" risk (", " issues)"], IsBare text := by
    decide
  have bare : IsBare (level.name ++ " risk (" ++ toString issues ++
      " issues)") :=
    ((bareName.append (bareWords _ (by simp))).append
      (isBare_toString issues)).append (bareWords _ (by simp))
  rw [PlainPart.blocks, List.flatMap_cons, List.flatMap_singleton, Block.texts,
    Block.texts, Markup.shown_inStyle bare]
  simp only [String.join_cons, String.join_nil, String.append_assoc,
    String.append_empty, List.append_nil]

theorem texts_partsOf (disk : Disk) (part : Level × List NumberedIssue) :
    ((partsOf part).flatMap (PlainPart.blocks disk)).flatMap Block.texts =
      sectionTexts part := by
  have entries : ((part.2.map NumberedIssue.part).flatMap
        (PlainPart.blocks disk)).flatMap Block.texts =
      part.2.flatMap NumberedIssue.texts := by
    rw [List.flatMap_map, List.flatMap_assoc]
    simp only [texts_entry]
  rw [partsOf, List.flatMap_cons, List.flatMap_append, entries, texts_heading,
    sectionTexts, List.singleton_append]

section Presentable

variable {scan : Scan} {minLevel : String} {told : List Issue}
  (isChosen : chosen minLevel scan = .ok told)
  (presentable : ∀ issue ∈ told, issue.IsPresentable)

include isChosen presentable

theorem exists_display (disk : Disk) (target : String) (now : Moment) :
    ∃ blocks, display disk scan target minLevel now = .ok blocks ∧
      Block.textsOfAll blocks =
        consoleTexts scan target minLevel now told.length (levelCounts told)
          (functionCounts told) (listingOf told) := by
  refine ⟨_, display_eq isChosen presentable disk target now, ?_⟩
  have sections : ((bodyParts told).flatMap (PlainPart.blocks disk)).flatMap
      Block.texts = (listingOf told).flatMap sectionTexts := by
    rw [bodyParts_eq_flatMap, List.flatMap_assoc, List.flatMap_assoc]
    apply List.flatMap_congr
    intro part listed
    rw [← texts_partsOf disk, List.flatMap_assoc]
  have blank : Block.blank.texts = [] := rfl
  have head : [infoPanel target minLevel now, .blank,
        statisticsPanel scan told, .blank].flatMap Block.texts =
      infoTexts target minLevel now ++
        statisticsTexts scan told.length (levelCounts told)
          (functionCounts told) := by
    simp only [List.flatMap_cons, List.flatMap_nil, blank, texts_infoPanel,
      texts_statisticsPanel, List.nil_append, List.append_nil]
  rw [Block.textsOfAll_eq_flatMap, List.flatMap_append, head, consoleTexts]
  by_cases empty : told = []
  · rw [if_pos (List.isEmpty_iff.mpr empty),
      if_pos (List.length_eq_zero_iff.mpr empty), List.flatMap_singleton,
      texts_nothingPanel]
  · rw [if_neg (mt List.isEmpty_iff.mp empty),
      if_neg (mt List.length_eq_zero_iff.mp empty), List.flatMap_append,
      List.flatMap_append, sections, List.flatMap_singleton, texts_advice]

end Presentable

end Report

end CallAudit
