import CallAudit.Proofs.Issue.Mark
import CallAudit.Proofs.Report.Agreement
import CallAudit.Proofs.Scan.Completed

/-!
# Excerpts around issues

The panel of an issue shows some lines of the file around it.  The lines are cut
out of the text, put together again and numbered, apart from what the audit did
with the text.  For an issue of an audit of the same text, the excerpt shows the
lines from two before to two after the issue under their own numbers, and points
out the line that the issue tells of.
-/

namespace CallAudit

/-! ## Lines under their numbers -/

namespace Text

theorem newline_not_mem_of_mem_lines {text line : String}
    (listed : line ∈ lines text) : '\n' ∉ line.toList := by
  obtain ⟨chars, isPart, isLine⟩ := List.mem_map.mp listed
  rw [← isLine, String.toList_ofList]
  exact not_mem_of_mem_splitChars chars isPart

/-- Some lines of a text that are put together have these lines again. -/
theorem lines_joinWith {text : String} {shown : List String}
    (filled : shown ≠ []) (part : ∀ line ∈ shown, line ∈ lines text) :
    lines (joinWith "\n" shown) = shown := by
  apply split_joinWith_of_mark rfl filled
  intro line listed
  exact newline_not_mem_of_mem_lines (part line listed)

end Text

namespace Report

theorem window_eq {α : Type} (items : List α) (start stop : Nat) :
    window items start stop = (items.take stop).drop start := by
  have notNegative : ¬ (stop : Int) < 0 := by
    omega
  rw [window, if_neg notNegative, Int.toNat_natCast]

theorem getElem?_window {α : Type} (items : List α)
    (start stop index : Nat) :
    (window items start stop)[index]? =
      if start + index < stop then items[start + index]? else none := by
  rw [window_eq, List.getElem?_drop, List.getElem?_take]

theorem mem_of_mem_window {α : Type} {items : List α} {start stop : Nat}
    {item : α} (listed : item ∈ window items start stop) : item ∈ items := by
  rw [window_eq] at listed
  exact List.mem_of_mem_take (List.mem_of_mem_drop listed)

end Report

namespace Issue

/-- The number of the first line to show around an issue. -/
def firstAround (issue : Issue) : Int :=
  max 1 (issue.line - 2)

/-- The number of the last line of a text to show around an issue. -/
def lastAround (text : String) (issue : Issue) : Int :=
  min ((Text.lines text).length : Int) (issue.line + 2)

end Issue

namespace Excerpt

/-- The line that an excerpt shows under a number. -/
def line? (excerpt : Excerpt) (number : Int) : Option String :=
  Text.row? (Text.lines excerpt.text) (number - excerpt.firstLine)

/-- An excerpt shows an issue of a text: under the numbers around the issue it
has the lines of the text with these numbers, it has no others, and it points
out the line that the issue tells of. -/
structure Shows (text : String) (issue : Issue) (excerpt : Excerpt) :
    Prop where
  firstLine : excerpt.firstLine = issue.firstAround
  lines : ∀ number, excerpt.line? number =
    if issue.firstAround ≤ number ∧ number ≤ issue.lastAround text then
      Text.row? (Text.lines text) (number - 1)
    else none
  highlighted : excerpt.highlighted = [issue.line]
  inside : issue.firstAround ≤ issue.line ∧ issue.line ≤ issue.lastAround text
  content : ∃ line, excerpt.line? issue.line = some line ∧
    Text.trim line = issue.lineContent

end Excerpt

namespace Report

theorem firstLine_surroundings (issue : Issue) (text : String) :
    (surroundings issue text).firstLine = issue.firstAround := by
  simp only [surroundings, Issue.firstAround]
  omega

section Surroundings

variable {text line : String} {issue : Issue} {row : Nat}
  (isLine : issue.line = row + 1)
  (found : (Text.lines text)[row]? = some line)

include isLine

theorem text_surroundings :
    (surroundings issue text).text =
      Text.joinWith "\n" (window (Text.lines text) (row - 2)
        (min (Text.lines text).length (row + 3) : Nat)) := by
  have start : (issue.line - 3).toNat = row - 2 := by
    omega
  have stop : min ((Text.lines text).length : Int) (issue.line + 2) =
      (min (Text.lines text).length (row + 3) : Nat) := by
    omega
  simp only [surroundings, start, stop]

include found

theorem lines_surroundings :
    Text.lines (surroundings issue text).text =
      window (Text.lines text) (row - 2)
        (min (Text.lines text).length (row + 3) : Nat) := by
  have inText : row < (Text.lines text).length :=
    (List.getElem?_eq_some_iff.mp found).1
  have place : row - 2 + (row - (row - 2)) = row := by
    omega
  have own : (window (Text.lines text) (row - 2)
      (min (Text.lines text).length (row + 3) : Nat))[row - (row - 2)]? =
        some line := by
    rw [getElem?_window, place, if_pos (by omega), found]
  rw [text_surroundings isLine]
  apply Text.lines_joinWith
  · exact List.ne_nil_of_mem (List.mem_of_getElem? own)
  · intro shown listed
    exact mem_of_mem_window listed

theorem line?_surroundings (number : Int) :
    (surroundings issue text).line? number =
      if issue.firstAround ≤ number ∧ number ≤ issue.lastAround text then
        Text.row? (Text.lines text) (number - 1)
      else none := by
  have first : issue.firstAround = ((row - 2 : Nat) : Int) + 1 := by
    rw [Issue.firstAround]
    omega
  have last : issue.lastAround text =
      (min (Text.lines text).length (row + 3) : Nat) := by
    rw [Issue.lastAround]
    omega
  rw [Excerpt.line?, firstLine_surroundings, lines_surroundings isLine found,
    Text.row?, first, last]
  by_cases early : number < ((row - 2 : Nat) : Int) + 1
  · rw [if_pos (by omega), if_neg (by omega)]
  · -- A place in the excerpt is as many lines further down in the text.
    have place :
        row - 2 + (number - (((row - 2 : Nat) : Int) + 1)).toNat =
          (number - 1).toNat := by
      omega
    rw [if_neg (by omega), getElem?_window, place]
    by_cases late :
        number ≤ ((min (Text.lines text).length (row + 3) : Nat) : Int)
    · rw [if_pos (by omega), if_pos ⟨by omega, late⟩, Text.row?,
        if_neg (by omega)]
    · rw [if_neg (by omega), if_neg (by omega)]

/-- The lines around an issue show it. -/
theorem shows_surroundings (content : issue.lineContent = Text.trim line) :
    (surroundings issue text).Shows text issue := by
  have inText : row < (Text.lines text).length :=
    (List.getElem?_eq_some_iff.mp found).1
  have inside : issue.firstAround ≤ issue.line ∧
      issue.line ≤ issue.lastAround text := by
    rw [Issue.firstAround, Issue.lastAround]
    omega
  have isRow : (issue.line - 1).toNat = row := by
    omega
  have own : (surroundings issue text).line? issue.line = some line := by
    rw [line?_surroundings isLine found, if_pos inside, Text.row?,
      if_neg (by omega), isRow, found]
  exact ⟨firstLine_surroundings issue text, line?_surroundings isLine found,
    rfl, inside, line, own, content.symm⟩

end Surroundings

end Report

/-! ## The excerpts of a panel -/

mutual

/-- All excerpts in a block, from top to bottom. -/
def Block.excerpts : Block → List Excerpt
  | .source excerpt => [excerpt]
  | .panel inner _ _ => inner.excerpts
  | .centered inner => inner.excerpts
  | .group parts => excerptsAmong parts
  | .columns parts => excerptsAmong parts
  | .blank => []
  | .message _ => []
  | .styled _ => []
  | .rule _ _ => []
  | .table _ => []

def excerptsAmong : List Block → List Excerpt
  | [] => []
  | block :: rest => block.excerpts ++ excerptsAmong rest

end

/-- A panel with one excerpt, which shows an issue of a text. -/
def Block.ShowsFinding (text : String) (issue : Issue) (panel : Block) : Prop :=
  ∃ excerpt, panel.excerpts = [excerpt] ∧ excerpt.Shows text issue

namespace Report

theorem excerpts_panel (disk : Disk) (number : Nat) (issue : Issue)
    (suggestions : List String) :
    (PlainPart.panel disk number issue suggestions).excerpts =
      (excerpt? issue (disk.text? issue.file)).toList := by
  rw [PlainPart.panel, Block.excerpts, Block.excerpts, issueBody, issueHead]
  cases excerpt? issue (disk.text? issue.file) with
  | none =>
      cases suggestions with
      | nil =>
          rfl
      | cons first others =>
          rfl
  | some excerpt =>
      cases suggestions with
      | nil =>
          rfl
      | cons first others =>
          rfl

theorem excerpt?_of_filled {issue : Issue} {text : String}
    (filled : text ≠ "") :
    excerpt? issue (some text) = some (surroundings issue text) := by
  have kept : (some text).filter (· != "") = some text := by
    simpa using filled
  rw [excerpt?, kept]

/-! ## The panels of a report -/

theorem risky_of_sections {issues : List Issue} {parts : List Section}
    (divided : sections issues = .ok parts) :
    ∀ issue ∈ issues, issue.risk.level ≠ .none := by
  intro issue listed harmless
  have found : (issues.find? fun issue => issue.risk.level = .none) ≠ none := by
    intro search
    have reported := List.find?_eq_none.mp search issue listed
    exact reported (decide_eq_true harmless)
  obtain ⟨first, isFirst⟩ := Option.ne_none_iff_exists'.mp found
  rw [sections, Issue.sections, isFirst] at divided
  exact absurd divided (by simp)

/-- A report on the console has a panel for every issue that it tells of. -/
theorem exists_issuePanel_mem {disk : Disk} {scan : Scan}
    {target minLevel : String} {now : Moment} {told : List Issue}
    {blocks : List Block} (isChosen : chosen minLevel scan = .ok told)
    (reported : display disk scan target minLevel now = .ok blocks)
    {issue : Issue} (listed : issue ∈ told) :
    ∃ number panel, issuePanel disk (number, issue) = .ok panel ∧
      panel ∈ blocks := by
  have succeeds : Succeeds (display disk scan target minLevel now) :=
    ⟨blocks, reported⟩
  have filled : ¬ told.isEmpty = true := by
    intro empty
    rw [List.isEmpty_iff.mp empty] at listed
    exact List.not_mem_nil listed
  have found : Succeeds (findings disk told) :=
    (succeeds.rest_of_bind isChosen).of_bind
  rw [findings, if_neg filled] at found
  obtain ⟨parts, divided⟩ := found.of_bind
  have risky := risky_of_sections divided
  have renders := renders_of_display isChosen risky succeeds
  have presentable : ∀ issue ∈ told, issue.IsPresentable :=
    fun issue listed => ⟨risky issue listed, renders issue listed⟩
  have inside : issue ∈ Issue.ofLevel issue.risk.level told := by
    simp [Issue.ofLevel, listed]
  obtain ⟨number, isNumbered⟩ := exists_mem_numbered inside
  have isPart : entryPart (number, issue) ∈ bodyParts told := by
    refine List.mem_flatMap.mpr ⟨issue.risk.level,
      Level.mem_reported_iff.mpr (risky issue listed), ?_⟩
    rw [sectionParts, if_neg (by simpa using List.ne_nil_of_mem inside)]
    exact List.mem_cons_of_mem _ (List.mem_map_of_mem isNumbered)
  refine ⟨number, _, issuePanel_eq disk (presentable issue listed), ?_⟩
  rw [display_eq isChosen presentable, if_neg filled,
    Except.ok.injEq] at reported
  rw [← reported]
  refine List.mem_append_right _ (List.mem_flatMap.mpr
    ⟨entryPart (number, issue), List.mem_append_left _ isPart, ?_⟩)
  exact List.mem_cons_self

end Report

/-! ## Findings in a report -/

/-- Every call of a tree begins with a byte of a text. -/
def Node.CallsBeginIn (text : String) (tree : Node) : Prop :=
  ∀ site ∈ tree.sites, site.kind = "call_expression" →
    site.node.label.span.start < (Text.bytes text.toList).length

theorem Node.PlacedIn.exists_line {text : String} {tree : Node}
    (placed : tree.PlacedIn text) {site : Site} (member : site ∈ tree.sites) :
    ∃ line, (Text.lines text)[site.node.start.row]? = some line := by
  obtain ⟨⟨front, cut⟩, start⟩ := placed site member
  obtain ⟨before, line, after, last, shape, _, point, _⟩ := cut.exists_lines
  refine ⟨line, ?_⟩
  rw [start, point, shape]
  simp

/-- The excerpt for a finding shows its issue. -/
theorem Finding.shows_surroundings {text : String} {finding : Finding}
    {line : String} (file : String)
    (found : (Text.lines text)[finding.call.node.start.row]? = some line) :
    (Report.surroundings (finding.issue file (some (Text.lines text)))
      text).Shows text (finding.issue file (some (Text.lines text))) := by
  have content :
      (finding.issue file (some (Text.lines text))).lineContent =
        Text.trim line := by
    simp [issue, Ledger.lineContent, found]
  exact Report.shows_surroundings rfl found content

namespace Report

/-- A report on the console shows every finding in its file: the panel of an
issue holds one excerpt, with the lines around the issue under their numbers and
the line of the issue pointed out.  The file must hold the text that was audited,
and the tree must have been placed in it. -/
theorem panels_show_findings
    {read : TreeReader} {disk : Disk} {file text : String} {tree : Node}
    {vocabulary : Vocabulary} {ledger : Ledger}
    (onDisk : disk.text? file = some text)
    (unmarked : text.toList.head? ≠ some Source.byteOrderMark)
    (parsed : read (Dialect.ofFile file) text = tree)
    (placed : tree.PlacedIn text) (begins : tree.CallsBeginIn text)
    (audited : Source.audit read text file vocabulary = .ok ledger) :
    ∀ issue ∈ ledger.issues,
      (∀ number, ∃ panel, issuePanel disk (number, issue) = .ok panel ∧
        panel.ShowsFinding text issue) ∧
      ∀ scan target minLevel now told blocks,
        chosen minLevel scan = .ok told → issue ∈ told →
          display disk scan target minLevel now = .ok blocks →
            ∃ number panel, issuePanel disk (number, issue) = .ok panel ∧
              panel ∈ blocks ∧ panel.ShowsFinding text issue := by
  have isText : Source.withoutMark text = text :=
    Source.withoutMark_of_head? unmarked
  have run := Source.audit_eq_ite read text file vocabulary
  rw [Source.readText, isText, isText, parsed, audited] at run
  have sound : ¬ tree.label.faulty = true := by
    intro faulty
    rw [if_pos faulty] at run
    exact absurd run (by simp)
  rw [if_neg sound, Except.ok.injEq] at run
  intro issue listed
  rw [run, List.mem_map] at listed
  obtain ⟨finding, isFinding, isIssue⟩ := listed
  have isIn := Node.mem_findings_iff.mp isFinding
  have present := List.mem_of_getElem? isIn.placed
  have filled : text ≠ "" := by
    intro empty
    have byte := begins finding.call present isIn.watched.1
    rw [empty] at byte
    exact absurd byte (Nat.not_lt_zero _)
  obtain ⟨line, found⟩ := placed.exists_line present
  have shows := finding.shows_surroundings file found
  have presentable := isIn.isPresentable file (some (Text.lines text))
  have isFile : (finding.issue file (some (Text.lines text))).file = file := rfl
  rw [isIssue] at shows presentable isFile
  have each : ∀ number panel, issuePanel disk (number, issue) = .ok panel →
      panel.ShowsFinding text issue := by
    intro number panel isPanel
    rw [issuePanel_eq disk presentable, Except.ok.injEq] at isPanel
    refine ⟨surroundings issue text, ?_, shows⟩
    rw [← isPanel, excerpts_panel, isFile, onDisk, excerpt?_of_filled filled]
    rfl
  refine ⟨fun number => ?_, ?_⟩
  · have isPanel := @issuePanel_eq disk (number, issue) presentable
    exact ⟨_, isPanel, each number _ isPanel⟩
  · intro scan target minLevel now told blocks isChosen isTold reported
    obtain ⟨number, panel, isPanel, inside⟩ :=
      exists_issuePanel_mem isChosen reported isTold
    exact ⟨number, panel, isPanel, inside, each number panel isPanel⟩

/-- A disk with the file `a.js` that holds `a` and in a second line `é=f(x)`. -/
def accentedDisk : Disk where
  root := .put "a.js" (.file Source.accented.toUTF8) .empty
  workDir := []

/-- The panel for `f(x)` shows both lines of its file and points out the
second. -/
theorem panels_show_accentedCall :
    ∃ ledger issue,
      Source.audit (fun _ _ => Source.accentedTree) Source.accented "a.js"
          ⟨["f"], []⟩ = .ok ledger ∧
        ledger.issues = [issue] ∧ issue.line = 2 ∧
        ∃ panel, issuePanel accentedDisk (1, issue) = .ok panel ∧
          panel.ShowsFinding Source.accented issue := by
  have onDisk : accentedDisk.text? "a.js" = some Source.accented := by
    decide +kernel
  have unmarked : Source.accented.toList.head? ≠
      some Source.byteOrderMark := by
    decide +kernel
  have begins : Source.accentedTree.CallsBeginIn Source.accented := by
    have check : ∀ site ∈ Source.accentedTree.sites,
        site.kind = "call_expression" →
          site.node.label.span.start <
            (Text.bytes Source.accented.toList).length := by
      decide +kernel
    exact check
  have sound : Source.tree (fun _ _ => Source.accentedTree)
      (Source.withoutMark Source.accented) "a.js" =
        .ok Source.accentedTree :=
    rfl
  have audited := Source.audit_eq sound ⟨["f"], []⟩
  have shown := panels_show_findings onDisk unmarked rfl
    Source.accentedTree_placed begins audited
  obtain ⟨finding, isOnly, isCall⟩ := Source.exists_finding_accentedTree
  rw [isOnly, List.map_singleton] at audited shown
  have shows := (shown _ (List.mem_singleton_self _)).1 1
  refine ⟨_, _, audited, rfl, ?_, shows⟩
  rw [Finding.issue, isCall]
  rfl

end Report

end CallAudit
