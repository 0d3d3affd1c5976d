import CallAudit.Proofs.Issue.Position

/-!
# A byte order mark in front of a source

One more byte order mark in front of a source changes nothing when the source
has none.  When the source has one already, the reader still gets the same text,
but the lines of the text keep a mark: the issues in the first line are then
told with another content, and possibly another column, and all others stay as
they are.
-/

namespace CallAudit

/-! ## The first line -/

namespace Text

theorem exists_lines_cons {c : Char} (other : c ≠ '\n') (text : String) :
    ∃ first later, lines text = first :: later ∧
      lines (String.ofList (c :: text.toList)) =
        String.ofList (c :: first.toList) :: later := by
  cases parts : splitChars '\n' text.toList with
  | nil =>
      rw [splitChars_eq_splitOn] at parts
      exact absurd parts (List.splitOn_ne_nil '\n' text.toList)
  | cons first later =>
      have whole : splitChars '\n' (c :: text.toList) =
          (c :: first) :: later := by
        rw [splitChars] at parts ⊢
        rw [List.foldr_cons, parts, splitStep, if_neg other]
      refine ⟨String.ofList first, later.map String.ofList, ?_, ?_⟩
      · rw [lines, split, parts, List.map_cons]
      · rw [lines, split, String.toList_ofList, whole, List.map_cons,
          String.toList_ofList]

section Trim

variable {drop : Char → Bool} {c : Char} (stays : drop c = false)

include stays

theorem trimChars_cons_of_stays (text : List Char) :
    trimChars drop (c :: text) =
      c :: (text.reverse.dropWhile drop).reverse := by
  have opens : (c :: text).dropWhile drop = c :: text :=
    List.dropWhile_cons_of_neg (by simp [stays])
  have closes : (text.reverse ++ [c]).dropWhile drop =
      text.reverse.dropWhile drop ++ [c] := by
    rw [List.dropWhile_append]
    split
    · next empty =>
        rw [List.isEmpty_iff.mp empty]
        exact List.dropWhile_cons_of_neg (by simp [stays])
    · rfl
  rw [trimChars, opens, List.reverse_cons, closes, List.reverse_append,
    List.reverse_singleton, List.singleton_append]

/-- A text with a character in front that is not dropped is longer at the end. -/
theorem length_trimChars_lt (text : List Char) :
    (trimChars drop text).length < (trimChars drop (c :: text)).length := by
  have shape : text.reverse =
      (text.dropWhile drop).reverse ++ (text.takeWhile drop).reverse := by
    rw [← List.reverse_append, List.takeWhile_append_dropWhile]
  have shorter : ((text.dropWhile drop).reverse.dropWhile drop).length ≤
      (text.reverse.dropWhile drop).length := by
    rw [shape, List.dropWhile_append]
    split
    · next empty =>
        rw [List.isEmpty_iff.mp empty]
        exact Nat.zero_le _
    · rw [List.length_append]
      exact Nat.le_add_right _ _
  rw [trimChars_cons_of_stays stays, trimChars, List.length_reverse,
    List.length_cons, List.length_reverse]
  omega

end Trim

end Text

/-- Of two issues, one may differ from the other by what the first line of the
text says: the column and the content. -/
structure Issue.DiffersByMark (marked plain : Issue) : Prop where
  alike : marked =
    { plain with column := marked.column, lineContent := marked.lineContent }
  elsewhere : plain.line ≠ 1 → marked = plain
  firstLine : plain.line = 1 → marked.lineContent ≠ plain.lineContent

namespace Issue

theorem eq_iff_of_differsByMark {marked plain : List Issue}
    (pairs : List.Forall₂ DiffersByMark marked plain) :
    marked = plain ↔ ∀ issue ∈ plain, issue.line ≠ 1 := by
  induction pairs with
  | nil =>
      simp
  | cons differs _ inductionHypothesis =>
      rw [List.cons_eq_cons, inductionHypothesis, List.forall_mem_cons]
      constructor
      · rintro ⟨same, others⟩
        refine ⟨fun isFirst => ?_, others⟩
        exact differs.firstLine isFirst (congrArg lineContent same)
      · rintro ⟨notFirst, others⟩
        exact ⟨differs.elsewhere notFirst, others⟩

end Issue

namespace Finding

variable (finding : Finding) (file : String) (later : List String)

theorem issue_line_eq_one_iff (lines : Option (List String)) :
    (finding.issue file lines).line = 1 ↔ finding.call.node.start.row = 0 := by
  simp only [issue, Text.shownLine]
  omega

theorem issue_elsewhere (first other : String)
    (row : finding.call.node.start.row ≠ 0) :
    finding.issue file (some (first :: later)) =
      finding.issue file (some (other :: later)) := by
  obtain ⟨index, isRow⟩ := Nat.exists_eq_succ_of_ne_zero row
  have sameContent :
      Ledger.lineContent (some (first :: later)) (index + 1) =
        Ledger.lineContent (some (other :: later)) (index + 1) :=
    rfl
  have sameLine : Text.row? (first :: later) ((index + 1 : Nat) : Int) =
      Text.row? (other :: later) ((index + 1 : Nat) : Int) :=
    rfl
  simp only [issue, isRow, Nat.succ_eq_add_one, sameContent, Text.shownColumn,
    Option.bind_some, sameLine]

/-- A mark in the first line of the text shows in the issues of that line. -/
theorem issue_differsByMark (first : String) {mark : Char}
    (notBlank : Text.isBlank mark = false) :
    (finding.issue file
        (some (String.ofList (mark :: first.toList) :: later))).DiffersByMark
      (finding.issue file (some (first :: later))) := by
  refine ⟨rfl, ?_, ?_⟩
  · intro notFirst
    rw [ne_eq, issue_line_eq_one_iff] at notFirst
    exact issue_elsewhere finding file later _ first notFirst
  · intro isFirst same
    rw [issue_line_eq_one_iff] at isFirst
    simp only [issue, isFirst] at same
    have sameTrim : Text.trim (String.ofList (mark :: first.toList)) =
        Text.trim first :=
      same
    have longer := Text.length_trimChars_lt notBlank first.toList
    rw [Text.trim, Text.trim, String.toList_ofList,
      String.ofList_inj] at sameTrim
    rw [sameTrim] at longer
    exact Nat.lt_irrefl _ longer

end Finding

/-! ## Two audits -/

namespace Source

def withMark (source : String) : String :=
  String.ofList (byteOrderMark :: source.toList)

/-- The text of a source that reaches the reader of trees. -/
def readText (source : String) : String :=
  withoutMark (withoutMark source)

theorem withoutMark_withMark (source : String) :
    withoutMark (withMark source) = source := by
  rw [withoutMark, withMark, String.toList_ofList]
  exact (if_pos rfl).trans String.ofList_toList

theorem withMark_withoutMark {source : String}
    (marked : source.toList.head? = some byteOrderMark) :
    withMark (withoutMark source) = source := by
  obtain ⟨rest, shape⟩ := List.head?_eq_some_iff.mp marked
  have isMarked : source = withMark (String.ofList rest) := by
    rw [withMark, String.toList_ofList, ← shape, String.ofList_toList]
  rw [isMarked, withoutMark_withMark]

/-- The reader gets the same text with one more mark exactly when at most one
mark was there before. -/
theorem readText_withMark_iff {source : String} :
    readText (withMark source) = readText source ↔
      (withoutMark source).toList.head? ≠ some byteOrderMark := by
  rw [readText, withoutMark_withMark, readText]
  constructor
  · intro same marked
    have shape := withMark_withoutMark marked
    have longer := congrArg String.length shape
    rw [← same, withMark, String.length_ofList, List.length_cons,
      String.length_toList] at longer
    omega
  · intro unmarked
    exact (withoutMark_of_head? unmarked).symm

variable (read : TreeReader) (source file : String) (vocabulary : Vocabulary)

/-- An audit comes from the tree of the text that the reader gets and from the
lines of the text without the first mark. -/
theorem audit_eq_ite :
    audit read source file vocabulary =
      if (read (Dialect.ofFile file) (readText source)).label.faulty then
        .error (.source
          (faultOf (read (Dialect.ofFile file) (readText source))
            (readText source)))
      else
        .ok ⟨((read (Dialect.ofFile file) (readText source)).findings
          vocabulary).map
            (Finding.issue file
              (some (Text.lines (withoutMark source))))⟩ := by
  split
  · next faulty =>
      rw [readText] at faulty ⊢
      simp only [audit, tree, faulty, if_true]
  · next sound =>
      apply audit_eq
      rw [tree]
      exact if_neg sound

/-- With one more mark an audit lists the same issues up to the marks of the
first line. -/
theorem forall₂_differsByMark
    (marked : source.toList.head? = some byteOrderMark)
    (findings : List Finding) :
    List.Forall₂ Issue.DiffersByMark
      (findings.map (Finding.issue file (some (Text.lines source))))
      (findings.map
        (Finding.issue file (some (Text.lines (withoutMark source))))) := by
  obtain ⟨first, later, plain, shape⟩ :=
    Text.exists_lines_cons (c := byteOrderMark) (by decide)
      (withoutMark source)
  have isSource : String.ofList
      (byteOrderMark :: (withoutMark source).toList) = source :=
    withMark_withoutMark marked
  rw [isSource] at shape
  rw [shape, plain, List.forall₂_map_left_iff, List.forall₂_map_right_iff,
    List.forall₂_same]
  intro finding _
  exact finding.issue_differsByMark file later first (by decide)

/-- One more byte order mark in front of a source, where the reader still gets
the same text, leaves the outcome of the audit as it is, except that a source
that has a mark already gets another content, and possibly another column, for
each issue in its first line. -/
theorem audit_withMark
    (sameText : readText (withMark source) = readText source) :
    (audit read (withMark source) file vocabulary =
        audit read source file vocabulary ↔
      (source.toList.head? = some byteOrderMark →
        ∀ ledger, audit read source file vocabulary = .ok ledger →
          ∀ issue ∈ ledger.issues, issue.line ≠ 1)) ∧
    (∀ fault, audit read (withMark source) file vocabulary = .error fault ↔
      audit read source file vocabulary = .error fault) ∧
    ∀ marked plain,
      audit read (withMark source) file vocabulary = .ok marked →
        audit read source file vocabulary = .ok plain →
          (source.toList.head? = some byteOrderMark →
            List.Forall₂ Issue.DiffersByMark marked.issues plain.issues) ∧
          (source.toList.head? ≠ some byteOrderMark → marked = plain) := by
  have markedRun := audit_eq_ite read (withMark source) file vocabulary
  have plainRun := audit_eq_ite read source file vocabulary
  rw [sameText, withoutMark_withMark] at markedRun
  by_cases faulty :
      (read (Dialect.ofFile file) (readText source)).label.faulty = true
  · rw [if_pos faulty] at markedRun plainRun
    simp [markedRun, plainRun]
  rw [if_neg faulty] at markedRun plainRun
  by_cases isMarked : source.toList.head? = some byteOrderMark
  · have pairs := forall₂_differsByMark source file isMarked
      ((read (Dialect.ofFile file) (readText source)).findings vocabulary)
    rw [markedRun, plainRun]
    refine ⟨?_, by simp, ?_⟩
    · rw [Except.ok.injEq, Ledger.mk.injEq, Issue.eq_iff_of_differsByMark pairs]
      constructor
      · intro elsewhere _ ledger isLedger
        rw [← Except.ok.inj isLedger]
        exact elsewhere
      · intro elsewhere
        exact elsewhere isMarked _ rfl
    · intro marked plain isMarkedLedger isPlainLedger
      rw [← Except.ok.inj isMarkedLedger, ← Except.ok.inj isPlainLedger]
      exact ⟨fun _ => pairs, fun unmarked => absurd isMarked unmarked⟩
  · rw [withoutMark_of_head? isMarked] at plainRun
    rw [markedRun, plainRun]
    refine ⟨by simp [isMarked], by simp, ?_⟩
    intro marked plain isMarkedLedger isPlainLedger
    refine ⟨fun wasMarked => absurd wasMarked isMarked, fun _ => ?_⟩
    exact Except.ok.inj (isMarkedLedger.symm.trans isPlainLedger)

/-- With a second byte order mark the issue in line 2 of `accented` is told as
before, but those of `nestedCalls`, which has one line, are not. -/
theorem audit_withMark_of_accented_and_nestedCalls :
    audit (fun _ _ => accentedTree) (withMark "\ufeffa\né=f(x)") "a.js"
          ⟨["f"], []⟩ =
        audit (fun _ _ => accentedTree) "\ufeffa\né=f(x)" "a.js" ⟨["f"], []⟩ ∧
      audit (fun _ _ => nestedCalls) (withMark "\ufeff") "a.js"
          Settings.standard.vocabulary ≠
        audit (fun _ _ => nestedCalls) "\ufeff" "a.js"
          Settings.standard.vocabulary := by
  have sameAccented : readText (withMark "\ufeffa\né=f(x)") =
      readText "\ufeffa\né=f(x)" :=
    readText_withMark_iff.mpr (by decide +kernel)
  have sameNested : readText (withMark "\ufeff") = readText "\ufeff" :=
    readText_withMark_iff.mpr (by decide +kernel)
  have accentedRule := (audit_withMark (fun _ _ => accentedTree)
    "\ufeffa\né=f(x)" "a.js" ⟨["f"], []⟩ sameAccented).1
  have nestedRule := (audit_withMark (fun _ _ => nestedCalls)
    "\ufeff" "a.js" Settings.standard.vocabulary sameNested).1
  constructor
  · obtain ⟨finding, isOnly, isCall⟩ := exists_finding_accentedTree
    have audited := @audit_eq (fun _ _ => accentedTree) "\ufeffa\né=f(x)"
      "a.js" accentedTree rfl ⟨["f"], []⟩
    refine accentedRule.mpr fun _ ledger isLedger issue listed => ?_
    rw [audited, isOnly] at isLedger
    rw [← Except.ok.inj isLedger] at listed
    rw [List.mem_singleton.mp listed, ne_eq, Finding.issue_line_eq_one_iff,
      isCall]
    decide
  · intro same
    have audited := @audit_eq (fun _ _ => nestedCalls) "\ufeff" "a.js"
      nestedCalls rfl Settings.standard.vocabulary
    have elsewhere := nestedRule.mp same (by decide +kernel) _ audited
    have someFinding : ∃ finding others,
        nestedCalls.findings Settings.standard.vocabulary =
          finding :: others ∧ finding.call.node.start.row = 0 := by
      rw [Node.findings, ScopeTable.ofTree, Node.declarations,
        Node.walk_eq_sites]
      exact ⟨_, _, rfl, rfl⟩
    obtain ⟨finding, others, shape, row⟩ := someFinding
    rw [shape, List.map_cons, List.forall_mem_cons, ne_eq,
      Finding.issue_line_eq_one_iff] at elsewhere
    exact elsewhere.1 row

end Source

end CallAudit
