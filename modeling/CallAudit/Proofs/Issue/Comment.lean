import CallAudit.Proofs.Issue.Counterpart
import CallAudit.Proofs.Tree.Comment

/-!
# Comments do not matter

In a tree with one more comment every site has a counterpart, and every list of
children reappears with the comment as the only other child.  So the tree has
the same audit, and a faulty tree has the same fault
(`Source.audit_with_comment`).
-/

namespace CallAudit

namespace CommentInsertion

variable {tree : Node} {parent : Site} {before after : List Node}
  {comment : Node} {site : Site}

theorem isComment_of_isInserted
    (insertion : CommentInsertion tree parent before after comment)
    (isInserted : insertion.IsInserted site) : site.IsComment := by
  rw [Site.IsComment, Site.kind, isInserted.1]
  exact insertion.kind

theorem twin_child?
    (insertion : CommentInsertion tree parent before after comment)
    (member : site ∈ tree.sites) (role : String) :
    (insertion.relocation.twin site).child? role =
      (site.child? role).map insertion.relocation.twin := by
  have silent : ∀ inserted, insertion.IsInserted inserted →
      (inserted.node.field == some role) = false := by
    intro inserted isInserted
    rw [isInserted.1, insertion.roleless]
    rfl
  rw [Site.child?, (insertion.twin_children member).find?_eq silent,
    List.find?_map, Site.child?]
  congr 1
  apply List.find?_congr
  intro child below
  rw [Function.comp_apply, Node.field, Node.field,
    insertion.twin_label (Node.child_mem_sites member below)]

/-- Every site has a counterpart, and the comment comes in between. -/
def counterparts
    (insertion : CommentInsertion tree parent before after comment) :
    Counterparts where
  Kept := fun site => site ∈ tree.sites
  Extra := insertion.IsInserted
  Listed := fun _ => True
  twin := insertion.relocation.twin
  move := insertion.relocation.move
  move_root := rfl
  twin_path := fun _ => rfl
  twin_label := fun member =>
    congrArg Label.withoutField (insertion.twin_label member)
  kept_above := Node.above_mem_sites
  twin_above := fun _ =>
    (Relocation.twin_above _).imp fun _ isWrapper =>
      absurd isWrapper insertion.not_isWrapper
  twin_isScope := fun member =>
    Relocation.twin_isScope
      (fun _ otherMember =>
        congrArg Label.kind (insertion.twin_label otherMember))
      member rfl
  kept_child? := fun member _ _ found => Node.child?_mem_sites member found
  twin_child? := fun member _ _ => insertion.twin_child? member _
  listed_of_kind := fun _ _ => trivial
  listed_parameters := fun _ _ => trivial
  kept_child := fun member _ below => Node.child_mem_sites member below
  twin_children := fun member _ =>
    (insertion.twin_children member).imp fun _ =>
      insertion.isComment_of_isInserted
  extra_kind := fun isInserted =>
    Or.inl (insertion.isComment_of_isInserted isInserted)

theorem covers
    (insertion : CommentInsertion tree parent before after comment) :
    insertion.counterparts.Covers tree insertion.result where
  kept := fun _ member => member
  sites := insertion.sites_woven
  move_injective := insertion.move_injective
  move_ne := insertion.move_ne

end CommentInsertion

/-- A source whose tree has one more comment gets the same audit: the same
issues in the same order, or the same fault. -/
theorem Source.audit_with_comment
    {tree : Node} {parent : Site} {before after : List Node} {comment : Node}
    (insertion : CommentInsertion tree parent before after comment)
    {read readWith : TreeReader} {source file : String}
    (parsed : read (Dialect.ofFile file) (withoutMark (withoutMark source)) =
      tree)
    (parsedWith : readWith (Dialect.ofFile file)
      (withoutMark (withoutMark source)) =
        tree.replace parent.path
          (.node parent.node.label (before ++ comment :: after)))
    (vocabulary : Vocabulary) :
    audit readWith source file vocabulary =
      audit read source file vocabulary := by
  have isResult : tree.replace parent.path
      (.node parent.node.label (before ++ comment :: after)) =
        insertion.result :=
    rfl
  have sameFlag : insertion.result.label.faulty = tree.label.faulty :=
    congrArg Label.faulty (insertion.twin_label tree.root_mem_sites)
  have sameFault : ∀ text, faultOf insertion.result text = faultOf tree text := by
    intro text
    simp only [faultOf, Node.start, insertion.blame_label]
  have sameLedger : ∀ lines,
      Ledger.ofTree insertion.result file vocabulary lines =
        Ledger.ofTree tree file vocabulary lines :=
    insertion.covers.ofTree_twin (fun _ _ => trivial) file vocabulary
  simp only [audit, Source.tree, parsed, parsedWith, isResult, sameFlag,
    sameFault]
  by_cases faulty : tree.label.faulty
  · simp only [if_pos faulty]
  · simp only [if_neg faulty, sameLedger]

/-- The comment `/* net */`. -/
def netComment : Node :=
  .node { kind := "comment", text := "/* net */" } []

/-- The program `divDecimals(mulDecimals(rate), /* net */ fee)`. -/
def annotatedCalls : Node :=
  .node { kind := "program" }
    [callOf "divDecimals" [rateCall, netComment, feeArgument]]

theorem netComment_insertion :
    CommentInsertion nestedCalls outerArguments [rateCall] [feeArgument]
      netComment where
  present := List.mem_of_getElem? (i := 3) rfl
  split := rfl
  kind := rfl
  childless := rfl
  roleless := rfl
  notMissing := rfl
  notFaulty := rfl

/-- The comment does not become the second argument. -/
theorem Source.audit_annotatedCalls :
    ∃ ledger,
      audit (fun _ _ => annotatedCalls) "" "a.js"
          Settings.standard.vocabulary = .ok ledger ∧
        ledger.issues.map (fun issue =>
          (issue.function, issue.argument, issue.risk.level)) =
            [("divDecimals", 1, .low), ("divDecimals", 2, .high),
              ("mulDecimals", 1, .high)] := by
  have same := @audit_with_comment nestedCalls outerArguments [rateCall]
    [feeArgument] netComment netComment_insertion (fun _ _ => nestedCalls)
    (fun _ _ => annotatedCalls) "" "a.js" rfl rfl Settings.standard.vocabulary
  have audited := @audit_eq (fun _ _ => nestedCalls) "" "a.js" nestedCalls rfl
    Settings.standard.vocabulary
  refine ⟨_, same.trans audited, ?_⟩
  rw [Node.findings, ScopeTable.ofTree, Node.declarations, Node.walk_eq_sites]
  rfl

end CallAudit
