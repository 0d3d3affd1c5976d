import CallAudit.Proofs.Issue.Findings
import CallAudit.Proofs.Text.Position
import Mathlib.Data.List.Forall2

/-!
# Positions of issues

A tree tells where a call begins in rows and bytes, and an issue tells it in
lines and characters.  When the tree was placed in the text by counting bytes,
the issue leads to the first character of its call.
-/

namespace CallAudit

/-- Every node of a tree starts between two characters of a text, and its start
point was found by counting the bytes before it. -/
def Node.PlacedIn (text : String) (tree : Node) : Prop :=
  ∀ site ∈ tree.sites,
    (∃ front, Text.Cut text site.node.label.span.start front) ∧
      site.node.start =
        Point.after
          ((Text.bytes text.toList).take site.node.label.span.start)

/-- An issue leads to the first character of a call: its line is one of the text,
the characters of all lines before it, with the line feeds behind them, and its
column add up to the characters before the call, the column does not leave the
line, and the content is that of the line without white space at its ends. -/
structure Issue.Addresses (text : String) (call : Node) (issue : Issue) :
    Prop where
  fromOne : 1 ≤ issue.line
  inText : issue.line ≤ (Text.lines text).length
  characters : ∃ front,
    Text.Cut text call.label.span.start front ∧
      Text.lineCharacters ((Text.lines text).take (issue.line.toNat - 1)) +
        issue.column = front.length
  content : ∃ line,
    (Text.lines text)[issue.line.toNat - 1]? = some line ∧
      0 ≤ issue.column ∧ issue.column ≤ line.length ∧
      Text.IsStripped line issue.lineContent

/-- The issue of a finding leads to the call of the finding. -/
theorem Finding.issue_addresses {text : String} {finding : Finding}
    {front : List Char}
    (cut : Text.Cut text finding.call.node.label.span.start front)
    (start : finding.call.node.start =
      Point.after
        ((Text.bytes text.toList).take
          finding.call.node.label.span.start))
    (file : String) :
    (finding.issue file (some (Text.lines text))).Addresses text
      finding.call.node := by
  obtain ⟨before, line, after, last, shape, leads, point, count⟩ :=
    cut.exists_lines
  rw [point] at start
  have column :
      (finding.issue file (some (Text.lines text))).column = last.length := by
    rw [issue, start]
    exact Text.shownColumn_of_leads shape leads
  have isLine : (finding.issue file (some (Text.lines text))).line =
      before.length + 1 := by
    rw [issue, start]
    rfl
  have rowOf : ((before.length : Int) + 1).toNat - 1 = before.length := by
    omega
  have found : (Text.lines text)[before.length]? = some line := by
    rw [shape]
    simp
  have stripped : (finding.issue file (some (Text.lines text))).lineContent =
      Text.trim line := by
    rw [issue, start]
    simp [Ledger.lineContent, found]
  have width : last.length ≤ line.length := by
    rw [← String.length_toList]
    exact leads.length_le
  refine ⟨?_, ?_, ⟨front, cut, ?_⟩, ⟨line, ?_, ?_, ?_, ?_⟩⟩
  · rw [isLine]
    omega
  · rw [isLine, shape, List.length_append, List.length_cons]
    omega
  · rw [isLine, column, rowOf, shape, List.take_left]
    exact_mod_cast count
  · rw [isLine, rowOf, found]
  · rw [column]
    omega
  · rw [column]
    omega
  · rw [stripped]
    exact Text.isStripped_trim line

namespace Source

theorem withoutMark_of_head? {text : String}
    (unmarked : text.toList.head? ≠ some byteOrderMark) :
    withoutMark text = text := by
  rw [withoutMark]
  cases shape : text.toList with
  | nil =>
      rfl
  | cons c rest =>
      rw [shape, List.head?_cons] at unmarked
      have different : c ≠ byteOrderMark := by
        rintro rfl
        exact unmarked rfl
      exact if_neg different

/-- Every issue of an audited source leads to the first character of its call.
The text must not begin with a second byte order mark, and the tree must have
been placed in it by counting bytes. -/
theorem issues_address_their_calls
    {read : TreeReader} {source file text : String} {tree : Node}
    (isText : withoutMark source = text)
    (unmarked : text.toList.head? ≠ some byteOrderMark)
    (isTree : read (Dialect.ofFile file) text = tree)
    (placed : tree.PlacedIn text) (vocabulary : Vocabulary) :
    ((∃ ledger, audit read source file vocabulary = .ok ledger) ↔
        tree.label.faulty = false) ∧
      ∀ ledger, audit read source file vocabulary = .ok ledger →
        List.Forall₂
          (fun finding issue =>
            finding.IsIn tree vocabulary ∧
              issue.function = finding.function ∧
              issue.argument = finding.position ∧
              issue.Addresses text finding.call.node)
          (tree.findings vocabulary) ledger.issues := by
  have read_eq : Source.tree read (withoutMark source) file =
      if tree.label.faulty then .error (faultOf tree text) else .ok tree := by
    rw [Source.tree, isText, withoutMark_of_head? unmarked, isTree]
  by_cases faulty : tree.label.faulty = true
  · have refused : audit read source file vocabulary =
        .error (.source (faultOf tree text)) := by
      rw [audit, read_eq, if_pos faulty]
    simp only [refused, faulty]
    simp
  · rw [if_neg faulty] at read_eq
    have audited := audit_eq read_eq vocabulary
    rw [isText] at audited
    refine ⟨⟨fun _ => by simpa using faulty, fun _ => ⟨_, audited⟩⟩, ?_⟩
    intro ledger isLedger
    rw [audited, Except.ok.injEq] at isLedger
    rw [← isLedger, List.forall₂_map_right_iff, List.forall₂_same]
    intro finding member
    have isIn := Node.mem_findings_iff.mp member
    have present := List.mem_of_getElem? isIn.placed
    obtain ⟨⟨front, cut⟩, start⟩ := placed finding.call present
    exact ⟨isIn, rfl, rfl, Finding.issue_addresses cut start file⟩

/-- The text `a`, and in its second line `é=f(x)`. -/
def accented : String :=
  "a\né=f(x)"

/-- The call in the second line, which begins after five bytes and four
characters. -/
def accentedCall : Node :=
  .node
    { kind := "call_expression", field := some "right", span := ⟨5, 9⟩,
      start := ⟨1, 3⟩, text := "f(x)" }
    [.node
        { kind := "identifier", field := some "function", span := ⟨5, 6⟩,
          start := ⟨1, 3⟩, text := "f" } [],
      .node
        { kind := "arguments", field := some "arguments", span := ⟨6, 9⟩,
          start := ⟨1, 4⟩, text := "(x)" }
        [.node
            { kind := "(", named := false, span := ⟨6, 7⟩, start := ⟨1, 4⟩,
              text := "(" } [],
          .node
            { kind := "identifier", span := ⟨7, 8⟩, start := ⟨1, 5⟩,
              text := "x" } [],
          .node
            { kind := ")", named := false, span := ⟨8, 9⟩, start := ⟨1, 6⟩,
              text := ")" } []]]

def accentedTree : Node :=
  .node { kind := "program", span := ⟨0, 9⟩, text := accented }
    [.node { kind := "expression_statement", span := ⟨0, 1⟩, text := "a" }
        [.node { kind := "identifier", span := ⟨0, 1⟩, text := "a" } []],
      .node
        { kind := "expression_statement", span := ⟨2, 9⟩, start := ⟨1, 0⟩,
          text := "é=f(x)" }
        [.node
          { kind := "assignment_expression", span := ⟨2, 9⟩, start := ⟨1, 0⟩,
            text := "é=f(x)" }
          [.node
              { kind := "identifier", field := some "left", span := ⟨2, 4⟩,
                start := ⟨1, 0⟩, text := "é" } [],
            .node
              { kind := "=", named := false, span := ⟨4, 5⟩, start := ⟨1, 2⟩,
                text := "=" } [],
            accentedCall]]]

theorem accentedTree_placed : accentedTree.PlacedIn accented := by
  have check : ∀ site ∈ accentedTree.sites,
      (∃ count ∈ List.range 9,
        (Text.bytes (accented.toList.take count)).length =
          site.node.label.span.start) ∧
        site.node.start =
          Point.after
            ((Text.bytes accented.toList).take
              site.node.label.span.start) := by
    decide +kernel
  intro site member
  obtain ⟨⟨count, _, size⟩, start⟩ := check site member
  exact ⟨⟨_, List.take_prefix count _, size⟩, start⟩

theorem exists_finding_accentedTree :
    ∃ finding, accentedTree.findings ⟨["f"], []⟩ = [finding] ∧
      finding.call.node = accentedCall := by
  rw [Node.findings, ScopeTable.ofTree, Node.declarations, Node.walk_eq_sites]
  exact ⟨_, rfl, rfl⟩

/-- With a byte order mark in front of the text, the issue about `f(x)` is in
line 2 and column 2: three bytes, but two characters from the start of the
line. -/
theorem issue_addresses_accentedCall :
    ∃ ledger issue,
      audit (fun _ _ => accentedTree) "\ufeffa\né=f(x)" "a.js" ⟨["f"], []⟩ =
          .ok ledger ∧
        ledger.issues = [issue] ∧ issue.line = 2 ∧ issue.column = 2 ∧
        issue.Addresses accented accentedCall := by
  have isText : withoutMark "\ufeffa\né=f(x)" = accented := by
    decide +kernel
  have unmarked : accented.toList.head? ≠ some byteOrderMark := by
    decide +kernel
  obtain ⟨finding, isOnly, isCall⟩ := exists_finding_accentedTree
  have parsed : Source.tree (fun _ _ => accentedTree)
      (withoutMark "\ufeffa\né=f(x)") "a.js" = .ok accentedTree :=
    rfl
  have audited := audit_eq parsed ⟨["f"], []⟩
  have pairs := (issues_address_their_calls isText unmarked rfl
    accentedTree_placed ⟨["f"], []⟩).2 _ audited
  rw [isOnly, List.map_singleton, isText] at audited
  rw [isOnly, List.map_singleton, List.forall₂_cons, isText, isCall] at pairs
  refine ⟨_, _, audited, rfl, ?_, ?_, pairs.1.2.2.2⟩
  · rw [Finding.issue, isCall]
    rfl
  · have column : Text.shownColumn (some (Text.lines accented))
        accentedCall.start.row accentedCall.start.column = 2 := by
      decide +kernel
    rw [Finding.issue, isCall]
    exact column

end Source

end CallAudit
