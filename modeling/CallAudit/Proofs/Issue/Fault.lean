import CallAudit.Issue.Source
import CallAudit.Proofs.Tree.Fault

/-!
# The place of a syntax error

A source with a faulty tree is refused with the place of a fault.  When the tree
marks all its faults, and only where there are some, this is the first fault in
document order, and the root never has to stand in for it.
-/

namespace CallAudit

namespace Source

/-- The place to report for a fault at a node of the tree of a text. -/
def faultAt (node : Node) (text : String) : SourceFault where
  line := node.start.row + 1
  column :=
    Text.shownColumn (some (Text.lines text)) node.start.row node.start.column

theorem tree_of_faulty {read : TreeReader} {source file : String} {tree : Node}
    (parsed : read (Dialect.ofFile file) (withoutMark source) = tree)
    (faulty : tree.label.faulty = true) :
    Source.tree read source file =
      .error (faultAt tree.blame (withoutMark source)) := by
  have refused : Source.tree read source file =
      if tree.label.faulty then .error (faultOf tree (withoutMark source))
      else .ok tree := by
    rw [Source.tree, parsed]
  rw [refused, if_pos faulty]
  rfl

theorem exists_firstFault_of_faulty {tree : Node}
    (marked : (Site.root tree).MarksFaults)
    (caused : (Site.root tree).MarksHaveCause)
    (faulty : tree.label.faulty = true) :
    ∃ fault, (Site.root tree).firstFault? = some fault := by
  have isMarked : (Site.root tree).node.isMarked = true := by
    have isFaulty : (Site.root tree).node.label.faulty = true := faulty
    rw [Node.isMarked, isFaulty, Bool.true_or]
  obtain ⟨hidden, member, isFault⟩ :=
    Site.exists_fault_of_isMarked (Site.root tree) caused isMarked
  cases search : (Site.root tree).firstFault? with
  | some fault =>
      exact ⟨fault, rfl⟩
  | none =>
      have faultless := (Node.firstFault?_eq_none_iff marked).mp search
      rw [faultless hidden member] at isFault
      exact absurd isFault Bool.false_ne_true

/-- Where every fault of a tree is marked, the search finds the fault that comes
first in document order, and nothing only where there is none.  Where moreover
every mark has a cause, a source with a faulty tree is refused with the place of
that fault. -/
theorem first_fault_is_blamed {tree : Node}
    (marked : (Site.root tree).MarksFaults) :
    (∀ fault, (Site.root tree).firstFault? = some fault ↔
      tree.IsFirstFault fault) ∧
    ((Site.root tree).firstFault? = none ↔
      ∀ site ∈ tree.sites, site.node.isFault = false) ∧
    ((Site.root tree).MarksHaveCause → tree.label.faulty = true →
      ∃ fault, (Site.root tree).firstFault? = some fault ∧
        tree.IsFirstFault fault ∧ tree.blame = fault.node ∧
        ∀ (read : TreeReader) (source file : String),
          read (Dialect.ofFile file) (withoutMark source) = tree →
            Source.tree read source file =
              .error (faultAt fault.node (withoutMark source))) := by
  have isFirst := @Node.firstFault?_eq_some_iff tree marked
  refine ⟨fun fault => isFirst, Node.firstFault?_eq_none_iff marked, ?_⟩
  intro caused faulty
  obtain ⟨fault, found⟩ := exists_firstFault_of_faulty marked caused faulty
  have blamed : tree.blame = fault.node := by
    rw [Node.blame, Node.firstFault?, found]
    rfl
  refine ⟨fault, found, isFirst.mp found, blamed, ?_⟩
  intro read source file parsed
  rw [tree_of_faulty parsed faulty, blamed]

/-- The arguments `(x` in the second line, of which the closing parenthesis is
missing. -/
def openArguments : Node :=
  .node
    { kind := "arguments", field := some "arguments", faulty := true,
      start := ⟨1, 1⟩, text := "(x" }
    [.node { kind := "(", named := false, start := ⟨1, 1⟩, text := "(" } [],
      .node { kind := "identifier", start := ⟨1, 2⟩, text := "x" } [],
      .node { kind := ")", named := false, missing := true, start := ⟨1, 3⟩ } []]

/-- The call `f(x` in the second line. -/
def openCall : Node :=
  .node
    { kind := "call_expression", faulty := true, start := ⟨1, 0⟩,
      text := "f(x" }
    [.node
        { kind := "identifier", field := some "function", start := ⟨1, 0⟩,
          text := "f" } [],
      openArguments]

/-- The statement `f(x` in the second line. -/
def openStatement : Node :=
  .node
    { kind := "expression_statement", faulty := true, start := ⟨1, 0⟩,
      text := "f(x" }
    [openCall]

/-- The lines `a`, `f(x` and `]`: the second one lacks a parenthesis, and the
third one was not understood. -/
def brokenLines : Node :=
  .node { kind := "program", faulty := true, text := "a\nf(x\n]" }
    [.node { kind := "expression_statement", text := "a" }
        [.node { kind := "identifier", text := "a" } []],
      openStatement,
      .node { kind := "ERROR", faulty := true, start := ⟨2, 0⟩, text := "]" }
        [.node { kind := "]", named := false, start := ⟨2, 0⟩, text := "]" }
          []]]

/-- The parenthesis that is missing at the end of the second line. -/
def missingParenthesis : Site where
  path := [2, 1, 0, 1]
  ancestors := [openArguments, openCall, openStatement, brokenLines]
  node :=
    .node { kind := ")", named := false, missing := true, start := ⟨1, 3⟩ } []

theorem brokenLines_marksFaults : (Site.root brokenLines).MarksFaults := by
  have check : ∀ parent ∈ brokenLines.sites, ∀ child ∈ parent.children,
      (∃ fault ∈ child.subtree, fault.node.isFault = true) →
        child.node.isMarked = true := by
    decide +kernel
  exact check

theorem brokenLines_marksHaveCause :
    (Site.root brokenLines).MarksHaveCause := by
  have check : ∀ inner ∈ brokenLines.sites, inner.node.label.faulty = true →
      inner.node.isFault = true ∨
        ∃ child ∈ inner.children, child.node.isMarked = true := by
    decide +kernel
  exact check

/-- Of the two faults the missing parenthesis comes first, although it lies
deeper in the tree than the line that was not understood. -/
theorem first_fault_of_brokenLines :
    brokenLines.IsFirstFault missingParenthesis ∧
      Source.tree (fun _ _ => brokenLines) "a\nf(x\n]" "a.js" =
        .error ⟨2, 3⟩ := by
  have rule := first_fault_is_blamed brokenLines_marksFaults
  obtain ⟨fault, found, isFirst, _, told⟩ :=
    rule.2.2 brokenLines_marksHaveCause rfl
  have isMissing : (Site.root brokenLines).firstFault? =
      some missingParenthesis := by
    rw [Node.firstFault?_eq_find? brokenLines_marksFaults]
    rfl
  have same : fault = missingParenthesis :=
    Option.some.inj (found.symm.trans isMissing)
  have place : faultAt missingParenthesis.node (withoutMark "a\nf(x\n]") =
      ⟨2, 3⟩ := by
    decide +kernel
  rw [same] at isFirst told
  refine ⟨isFirst, ?_⟩
  rw [told (fun _ _ => brokenLines) "a\nf(x\n]" "a.js" rfl, place]

end Source

end CallAudit
