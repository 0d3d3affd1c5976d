import CallAudit.Issue.Source
import CallAudit.Proofs.Outcome
import CallAudit.Proofs.Tree.Order

/-!
# The findings of an audit

A finding is one argument of one watched call whose verdict is above harmless.
It is known by two numbers: the place of the call among the sites of the tree
in document order, and the position of the argument in the call.

* `Finding.IsIn` says what a finding of a tree is, without any search.
* `Node.findings` lists the findings of a tree.
* The audit of a tree records exactly the issues of these findings, in the
  increasing order of the two numbers.
-/

namespace CallAudit

/-! ## Watched calls and their arguments -/

namespace Site

/-- A call whose callee is the bare name of a watched function. -/
def CallsWatched
    (watched : List String) (call : Site) (function : String) : Prop :=
  call.kind = "call_expression" ∧
    ∃ callee, call.node.child? "function" = some callee ∧
      callee.kind = "identifier" ∧ callee.text = function ∧
      function ∈ watched

/-- An argument at a position of a call, counted from one among the constructs
other than comments in its argument list. -/
def HasArgument (call : Site) (position : Nat) (argument : Site) : Prop :=
  1 ≤ position ∧
    ∃ list, call.child? "arguments" = some list ∧
      (list.children.filter fun child =>
        child.node.named && child.kind != "comment")[position - 1]? =
          some argument

theorem watchedCallee?_eq_some_iff
    {watched : List String} {call : Site} {function : String} :
    call.watchedCallee? watched = some function ↔
      call.CallsWatched watched function := by
  by_cases isCall : call.kind = "call_expression"
  · cases found : call.node.child? "function" with
    | none =>
        simp [watchedCallee?, CallsWatched, isCall, found]
    | some callee =>
        simp only [watchedCallee?, CallsWatched, isCall, found,
          beq_self_eq_true, if_true, Bool.and_eq_true, beq_iff_eq,
          List.contains_iff_mem, true_and, Option.some.injEq, exists_eq_left']
        constructor
        · intro answer
          split at answer
          · next holds =>
              cases answer
              exact ⟨holds.1, rfl, holds.2⟩
          · simp at answer
        · rintro ⟨isName, rfl, listed⟩
          rw [if_pos ⟨isName, listed⟩]
  · simp [watchedCallee?, CallsWatched, isCall]

theorem hasArgument_iff
    {call : Site} {position : Nat} {argument : Site} :
    call.HasArgument position argument ↔
      1 ≤ position ∧
        call.callArguments[position - 1]? = some argument := by
  rw [HasArgument, callArguments]
  cases found : call.child? "arguments" with
  | none =>
      simp
  | some list =>
      simp only [Option.some.injEq, exists_eq_left']
      rfl

theorem mem_children_of_hasArgument
    {call : Site} {position : Nat} {argument : Site}
    (has : call.HasArgument position argument) :
    ∃ list ∈ call.children, argument ∈ list.children := by
  obtain ⟨_, list, found, listed⟩ := has
  exact ⟨list, List.mem_of_find?_eq_some found,
    (List.mem_filter.mp (List.mem_of_getElem? listed)).1⟩

theorem argument_mem_sites
    {tree : Node} {call : Site} {position : Nat} {argument : Site}
    (member : call ∈ tree.sites)
    (has : call.HasArgument position argument) :
    argument ∈ tree.sites := by
  obtain ⟨list, listMember, argumentMember⟩ :=
    mem_children_of_hasArgument has
  exact Node.child_mem_sites (Node.child_mem_sites member listMember)
    argumentMember

end Site

/-! ## Findings -/

theorem Level.not_le_none_iff {level : Level} :
    ¬ level ≤ .none ↔ level ≠ .none := by
  cases level <;> decide

/-- A risky argument of a watched call. -/
structure Finding where
  callIndex : Nat
  call : Site
  function : String
  position : Nat
  argument : Site
  risk : Risk

namespace Finding

/-- What makes a finding one of a tree: its call is at its place in document
order and watched, its argument stands at its position, and its risk is the
verdict on that argument and above harmless. -/
structure IsIn
    (tree : Node) (vocabulary : Vocabulary) (finding : Finding) : Prop where
  placed : tree.sites[finding.callIndex]? = some finding.call
  watched : finding.call.CallsWatched vocabulary.watched finding.function
  argued : finding.call.HasArgument finding.position finding.argument
  judged : finding.risk =
    Verdict.ofArgument vocabulary (ScopeTable.ofTree tree).resolve
      finding.argument
  risky : finding.risk.level ≠ .none

/-- The order of findings: by call, then by position. -/
def Before (left right : Finding) : Prop :=
  left.callIndex < right.callIndex ∨
    (left.callIndex = right.callIndex ∧ left.position < right.position)

def issue (file : String) (lines : Option (List String)) (finding : Finding) :
    Issue :=
  { file := file,
    line := Text.shownLine finding.call.node.start.row,
    column :=
      Text.shownColumn lines finding.call.node.start.row
        finding.call.node.start.column,
    function := finding.function,
    argument := finding.position,
    risk := finding.risk,
    code := finding.argument.text,
    lineContent := Ledger.lineContent lines finding.call.node.start.row }

/-- The finding for an argument with its index, if its verdict carries any
risk. -/
def ofArgument?
    (vocabulary : Vocabulary) (resolve : Site → Option Binding)
    (callIndex : Nat) (call : Site) (function : String)
    (argument : Site × Nat) : Option Finding :=
  let risk := Verdict.ofArgument vocabulary resolve argument.1
  if risk.level = .none then
    none
  else
    some ⟨callIndex, call, function, argument.2 + 1, argument.1, risk⟩

/-- The findings of one site with its index; none unless it is a watched
call. -/
def ofSite
    (vocabulary : Vocabulary) (resolve : Site → Option Binding)
    (site : Site × Nat) : List Finding :=
  match site.1.watchedCallee? vocabulary.watched with
  | none => []
  | some function =>
      site.1.callArguments.zipIdx.filterMap
        (ofArgument? vocabulary resolve site.2 site.1 function)

theorem ofArgument?_eq_some_iff
    {vocabulary : Vocabulary} {resolve : Site → Option Binding}
    {callIndex : Nat} {call : Site} {function : String}
    {argument : Site × Nat} {finding : Finding} :
    ofArgument? vocabulary resolve callIndex call function argument =
        some finding ↔
      (Verdict.ofArgument vocabulary resolve argument.1).level ≠ .none ∧
        finding =
          ⟨callIndex, call, function, argument.2 + 1, argument.1,
            Verdict.ofArgument vocabulary resolve argument.1⟩ := by
  rw [ofArgument?]
  split
  · next harmless =>
      simp [harmless]
  · next risky =>
      simp [risky, eq_comm]

theorem mem_ofSite_iff
    {vocabulary : Vocabulary} {resolve : Site → Option Binding}
    {site : Site × Nat} {finding : Finding} :
    finding ∈ ofSite vocabulary resolve site ↔
      finding.callIndex = site.2 ∧ finding.call = site.1 ∧
        site.1.CallsWatched vocabulary.watched finding.function ∧
        site.1.HasArgument finding.position finding.argument ∧
        finding.risk =
          Verdict.ofArgument vocabulary resolve finding.argument ∧
        finding.risk.level ≠ .none := by
  simp only [← Site.watchedCallee?_eq_some_iff, Site.hasArgument_iff]
  rw [ofSite]
  cases watched : site.1.watchedCallee? vocabulary.watched with
  | none =>
      simp
  | some function =>
      simp only [List.mem_filterMap, ofArgument?_eq_some_iff,
        Option.some.injEq, Prod.exists, List.mk_mem_zipIdx_iff_getElem?]
      constructor
      · rintro ⟨argument, index, listed, risky, rfl⟩
        exact ⟨rfl, rfl, rfl, ⟨Nat.le_add_left 1 index, listed⟩, rfl, risky⟩
      · obtain ⟨callIndex, call, name, position, argument, risk⟩ := finding
        rintro ⟨rfl, rfl, rfl, ⟨bound, listed⟩, judged, risky⟩
        simp only at bound listed judged risky
        subst judged
        refine ⟨argument, position - 1, listed, risky, ?_⟩
        rw [Nat.sub_add_cancel bound]

end Finding

/-- The findings of a tree: its sites in document order, and the arguments of
each watched call from left to right. -/
def Node.findings (vocabulary : Vocabulary) (tree : Node) : List Finding :=
  tree.sites.zipIdx.flatMap
    (Finding.ofSite vocabulary (ScopeTable.ofTree tree).resolve)

theorem Node.mem_findings_iff
    {vocabulary : Vocabulary} {tree : Node} {finding : Finding} :
    finding ∈ tree.findings vocabulary ↔ finding.IsIn tree vocabulary := by
  simp only [Node.findings, List.mem_flatMap, Prod.exists,
    List.mk_mem_zipIdx_iff_getElem?, Finding.mem_ofSite_iff]
  constructor
  · rintro ⟨call, index, placed, rfl, rfl, watched, argued, judged, risky⟩
    exact ⟨placed, watched, argued, judged, risky⟩
  · intro holds
    exact ⟨finding.call, finding.callIndex, holds.placed, rfl, rfl,
      holds.watched, holds.argued, holds.judged, holds.risky⟩

/-! ## The order of findings -/

theorem zipIdx_pairwise_lt {α : Type} (items : List α) :
    items.zipIdx.Pairwise fun left right => left.2 < right.2 := by
  have indices : (items.zipIdx.map Prod.snd).Pairwise (· < ·) := by
    rw [List.zipIdx_map_snd]
    exact List.pairwise_lt_range'
  exact List.pairwise_map.mp indices

theorem Finding.ofSite_pairwise
    (vocabulary : Vocabulary) (resolve : Site → Option Binding)
    (site : Site × Nat) :
    (ofSite vocabulary resolve site).Pairwise Before := by
  rw [ofSite]
  split
  · exact List.Pairwise.nil
  · refine List.pairwise_filterMap.mpr ((zipIdx_pairwise_lt _).imp ?_)
    intro left right order leftFinding leftFound rightFinding rightFound
    obtain ⟨_, rfl⟩ := ofArgument?_eq_some_iff.mp leftFound
    obtain ⟨_, rfl⟩ := ofArgument?_eq_some_iff.mp rightFound
    exact Or.inr ⟨rfl, by simpa using order⟩

theorem Node.findings_pairwise (vocabulary : Vocabulary) (tree : Node) :
    (tree.findings vocabulary).Pairwise Finding.Before := by
  refine List.pairwise_flatMap.mpr ⟨?_, ?_⟩
  · intro site _
    exact Finding.ofSite_pairwise vocabulary _ site
  · refine (zipIdx_pairwise_lt _).imp ?_
    intro left right order leftFinding leftMember rightFinding rightMember
    obtain ⟨leftIndex, _⟩ := Finding.mem_ofSite_iff.mp leftMember
    obtain ⟨rightIndex, _⟩ := Finding.mem_ofSite_iff.mp rightMember
    left
    rw [leftIndex, rightIndex]
    exact order

/-- A call comes before the calls nested in it. -/
theorem Node.index_lt_of_mem_above
    {tree : Node} {outer inner : Site} {outerIndex innerIndex : Nat}
    (outerAt : tree.sites[outerIndex]? = some outer)
    (innerAt : tree.sites[innerIndex]? = some inner)
    (nested : outer ∈ inner.above) :
    outerIndex < innerIndex := by
  have before : Path.Before outer.path inner.path :=
    before_of_mem_above (List.mem_of_getElem? innerAt) outer nested
  obtain ⟨outerBound, outerEq⟩ := List.getElem?_eq_some_iff.mp outerAt
  obtain ⟨innerBound, innerEq⟩ := List.getElem?_eq_some_iff.mp innerAt
  have sorted := List.pairwise_iff_getElem.mp tree.sites_pairwise
  rcases Nat.lt_trichotomy outerIndex innerIndex with lt | rfl | gt
  · exact lt
  · rw [outerEq] at innerEq
    rw [innerEq] at before
    exact absurd before (Path.before_irrefl _)
  · have after := sorted innerIndex outerIndex innerBound outerBound gt
    rw [outerEq, innerEq] at after
    exact absurd before (Path.before_asymm after)

/-! ## Recording -/

namespace Ledger

/-- Recording a verdict on an argument that the call has never fails. -/
theorem record_eq
    (ledger : Ledger) (file : String) (call : Site) (function : String)
    {index : Nat} (risk : Risk) (lines : Option (List String))
    {argument : Site} (listed : call.callArguments[index]? = some argument) :
    ledger.record file call function index risk lines =
      .ok (ledger.add
        (if risk.level = .none then none
          else some
            (issueFor file call function index risk lines argument))) := by
  rw [record, issue?]
  split
  · rfl
  · have inRange : ¬ (index : Int) < 0 := by omega
    simp [inRange, listed, Except.map]

variable
  (file : String) (lines : Option (List String)) (vocabulary : Vocabulary)
  (resolve : Site → Option Binding)

/-- Recording the verdicts from an argument on adds the issues of the findings
among the remaining arguments. -/
theorem recordAll_eq (call : WatchedCall) (callIndex : Nat) :
    ∀ (arguments : List Site) (first : Nat) (ledger : Ledger),
      call.site.callArguments.drop first = arguments →
        recordAll file lines call ledger first
            (arguments.map (Verdict.ofArgument vocabulary resolve)) =
          .ok ⟨ledger.issues ++
            ((arguments.zipIdx first).filterMap
              (Finding.ofArgument? vocabulary resolve callIndex call.site
                call.function)).map (Finding.issue file lines)⟩
  | [], first, ledger, _ => by
      simp [recordAll]
  | argument :: rest, first, ledger, remaining => by
      have listed : call.site.callArguments[first]? = some argument := by
        rw [← List.head?_drop, remaining, List.head?_cons]
      have later : call.site.callArguments.drop (first + 1) = rest := by
        rw [← List.drop_drop, remaining, List.drop_one, List.tail_cons]
      have restRecorded := fun next =>
        recordAll_eq call callIndex rest (first + 1) next later
      rw [List.map_cons, recordAll, record_eq _ _ _ _ _ _ listed,
        List.zipIdx_cons, List.filterMap_cons]
      simp only [bind, Except.bind, restRecorded, add, Finding.ofArgument?]
      by_cases harmless :
          (Verdict.ofArgument vocabulary resolve argument).level = .none
      · simp [harmless]
      · simp [harmless, Finding.issue, issueFor]

theorem auditCall_eq
    (ledger : Ledger) {site : Site} (index : Nat) {function : String}
    (watched : site.watchedCallee? vocabulary.watched = some function) :
    auditCall file lines vocabulary resolve ledger ⟨site, function⟩ =
      .ok ⟨ledger.issues ++
        (Finding.ofSite vocabulary resolve (site, index)).map
          (Finding.issue file lines)⟩ := by
  rw [auditCall, WatchedCall.verdicts,
    recordAll_eq file lines vocabulary resolve ⟨site, function⟩ index
      site.callArguments 0 ledger List.drop_zero,
    Finding.ofSite, watched]

/-- Auditing the watched calls among sites adds the issues of the findings at
these sites. -/
theorem foldlM_auditCall_eq :
    ∀ (sites : List Site) (first : Nat) (ledger : Ledger),
      (sites.filterMap fun site =>
        (site.watchedCallee? vocabulary.watched).map fun function =>
          (⟨site, function⟩ : WatchedCall)).foldlM
          (auditCall file lines vocabulary resolve) ledger =
        .ok ⟨ledger.issues ++
          ((sites.zipIdx first).flatMap
            (Finding.ofSite vocabulary resolve)).map
              (Finding.issue file lines)⟩
  | [], first, ledger => by
      simp [pure, Except.pure]
  | site :: rest, first, ledger => by
      have restAudited := fun next => foldlM_auditCall_eq rest (first + 1) next
      rw [List.zipIdx_cons, List.flatMap_cons, List.filterMap_cons]
      cases watched : site.watchedCallee? vocabulary.watched with
      | none =>
          simp only [Option.map_none, restAudited]
          simp [Finding.ofSite, watched]
      | some function =>
          rw [Option.map_some, List.foldlM_cons,
            auditCall_eq file lines vocabulary resolve ledger first watched]
          simp only [bind, Except.bind, restAudited]
          simp

/-- The audit of a tree records the issues of its findings. -/
theorem ofTree_eq (tree : Node) :
    ofTree tree file vocabulary lines =
      .ok ⟨(tree.findings vocabulary).map (Finding.issue file lines)⟩ := by
  rw [ofTree, Node.watchedCalls, Node.walk_eq_sites,
    foldlM_auditCall_eq file lines vocabulary _ tree.sites 0]
  rfl

end Ledger

/-- The audit of a source is that of its tree. -/
theorem Source.audit_eq
    {read : TreeReader} {source file : String} {tree : Node}
    (parsed : Source.tree read (Source.withoutMark source) file = .ok tree)
    (vocabulary : Vocabulary) :
    Source.audit read source file vocabulary =
      .ok ⟨(tree.findings vocabulary).map
        (Finding.issue file
          (some (Text.lines (Source.withoutMark source))))⟩ := by
  simp only [Source.audit, parsed, Ledger.ofTree_eq, Outcome.mapError_ok]

/-- No audit of a source asks for an argument that a call does not have. -/
theorem Source.audit_ne_argument
    (read : TreeReader) (source file : String) (vocabulary : Vocabulary)
    (fault : NoSuchArgument) :
    Source.audit read source file vocabulary ≠ .error (.argument fault) := by
  cases parsed : Source.tree read (Source.withoutMark source) file with
  | error wrong =>
      simp [Source.audit, parsed]
  | ok tree =>
      simp [Source.audit_eq parsed vocabulary]

theorem Site.position_le_of_hasArgument
    {call : Site} {position : Nat} {argument : Site}
    (has : call.HasArgument position argument) :
    position ≤ call.callArguments.length := by
  obtain ⟨_, listed⟩ := hasArgument_iff.mp has
  obtain ⟨inRange, _⟩ := List.getElem?_eq_some_iff.mp listed
  omega

/-! ## The whole audit -/

/-- The audit of a tree, and of every source that yields it, lists one issue
for each finding of the tree: the sites in document order, and the arguments of
each watched call from left to right.  No finding is lost, repeated or moved,
and no recording fails. -/
theorem Node.audit_lists_findings_in_order
    (tree : Node) (vocabulary : Vocabulary) :
    (∀ file lines,
      Ledger.ofTree tree file vocabulary lines =
        .ok ⟨(tree.findings vocabulary).map (Finding.issue file lines)⟩) ∧
      (∀ read source file,
        Source.tree read (Source.withoutMark source) file = .ok tree →
          Source.audit read source file vocabulary =
            .ok ⟨(tree.findings vocabulary).map
              (Finding.issue file
                (some (Text.lines (Source.withoutMark source))))⟩) ∧
      (∀ finding,
        finding ∈ tree.findings vocabulary ↔
          finding.IsIn tree vocabulary) ∧
      (tree.findings vocabulary).Pairwise Finding.Before ∧
      (∀ outer ∈ tree.findings vocabulary,
        ∀ inner ∈ tree.findings vocabulary,
          outer.call ∈ inner.call.above → outer.Before inner) ∧
      (∀ finding ∈ tree.findings vocabulary,
        1 ≤ finding.position ∧
          finding.position ≤ finding.call.callArguments.length ∧
          ¬ finding.risk.level ≤ .none) ∧
      (∀ read source file fault,
        Source.audit read source file vocabulary ≠
          .error (.argument fault)) := by
  refine ⟨?_, ?_, ?_, tree.findings_pairwise vocabulary, ?_, ?_, ?_⟩
  · intro file lines
    exact Ledger.ofTree_eq file lines vocabulary tree
  · intro read source file parsed
    exact Source.audit_eq parsed vocabulary
  · intro finding
    exact Node.mem_findings_iff
  · intro outer outerMember inner innerMember nested
    have outerAt := (Node.mem_findings_iff.mp outerMember).placed
    have innerAt := (Node.mem_findings_iff.mp innerMember).placed
    exact Or.inl (Node.index_lt_of_mem_above outerAt innerAt nested)
  · intro finding member
    have holds := Node.mem_findings_iff.mp member
    refine ⟨holds.argued.1, Site.position_le_of_hasArgument holds.argued, ?_⟩
    exact Level.not_le_none_iff.mpr holds.risky
  · intro read source file fault
    exact Source.audit_ne_argument read source file vocabulary fault

def callOf (function : String) (arguments : List Node) : Node :=
  .node { kind := "call_expression" }
    [.node { kind := "identifier", field := some "function", text := function }
        [],
      .node { kind := "arguments", field := some "arguments" } arguments]

/-- The program `divDecimals(mulDecimals(rate), fee)`. -/
def nestedCalls : Node :=
  .node { kind := "program" }
    [callOf "divDecimals"
      [callOf "mulDecimals" [.node { kind := "identifier", text := "rate" } []],
        .node { kind := "identifier", text := "fee" } []]]

/-- The name `fee`. -/
def feeArgument : Node :=
  .node { kind := "identifier", text := "fee" } []

/-- The call `mulDecimals(rate)`. -/
def rateCall : Node :=
  callOf "mulDecimals" [.node { kind := "identifier", text := "rate" } []]

/-- The outer call of `nestedCalls`. -/
def outerCall : Site :=
  ⟨[0], [nestedCalls], callOf "divDecimals" [rateCall, feeArgument]⟩

def outerArguments : Site :=
  ⟨[1, 0], [outerCall.node, nestedCalls],
    .node { kind := "arguments", field := some "arguments" }
      [rateCall, feeArgument]⟩

/-- Both findings of the outer call come before the one of the inner call. -/
theorem Node.audit_lists_nestedCalls :
    ∃ ledger,
      Ledger.ofTree nestedCalls "a.js" Settings.standard.vocabulary none =
        .ok ledger ∧
      ledger.issues.map (fun issue =>
        (issue.function, issue.argument, issue.risk.level)) =
          [("divDecimals", 1, .low), ("divDecimals", 2, .high),
            ("mulDecimals", 1, .high)] := by
  refine ⟨_, (Node.audit_lists_findings_in_order nestedCalls
    Settings.standard.vocabulary).1 "a.js" none, ?_⟩
  rw [Node.findings, ScopeTable.ofTree, Node.declarations, Node.walk_eq_sites]
  rfl

end CallAudit
