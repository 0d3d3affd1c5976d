import CallAudit.Proofs.Issue.Findings
import CallAudit.Proofs.Risk.Counterpart

/-!
# Audits of counterparts

The counterparts of the watched calls of a tree are the watched calls of the
other tree (`Counterparts.Covers.watchedCalls`).  A call whose list of arguments
reappears gets the same verdicts, and when every list does, the two trees have
the same audit (`Counterparts.Covers.ofTree_twin`).
-/

namespace CallAudit

theorem Site.mem_sites_of_mem_callArguments {tree : Node} {call argument : Site}
    (member : call ∈ tree.sites) (isArgument : argument ∈ call.callArguments) :
    argument ∈ tree.sites := by
  rw [callArguments] at isArgument
  cases found : call.child? "arguments" with
  | none =>
      rw [found] at isArgument
      exact absurd isArgument List.not_mem_nil
  | some list =>
      rw [found] at isArgument
      exact Node.child_mem_sites (Node.child?_mem_sites member found)
        (List.mem_filter.mp isArgument).1

theorem Node.site_of_mem_watchedCalls {tree : Node} {watched : List String}
    {call : WatchedCall} (listed : call ∈ tree.watchedCalls watched) :
    call.site ∈ tree.sites ∧ call.site.kind = "call_expression" := by
  rw [watchedCalls, walk_eq_sites, List.mem_filterMap] at listed
  obtain ⟨site, member, found⟩ := listed
  obtain ⟨function, callee, rfl⟩ := Option.map_eq_some_iff.mp found
  exact ⟨member, (Site.watchedCallee?_eq_some_iff.mp callee).1⟩

namespace Counterparts

def watchedCall (twins : Counterparts) (call : WatchedCall) : WatchedCall :=
  ⟨twins.twin call.site, call.function⟩

theorem watchedCallee?_of_extra (twins : Counterparts) (watched : List String)
    {extra : Site} (isExtra : twins.Extra extra) :
    extra.watchedCallee? watched = none := by
  rw [Site.watchedCallee?]
  rcases twins.extra_kind isExtra with kind | kind
  · rw [kind]
    rfl
  · rw [kind]
    rfl

namespace Covers

variable {twins : Counterparts} {old new : Node}
  (covers : twins.Covers old new) {watched : List String} {call : WatchedCall}

include covers

theorem watchedCallee?_twin {site : Site} (member : site ∈ old.sites) :
    (twins.twin site).watchedCallee? watched =
      site.watchedCallee? watched := by
  have kept := covers.kept site member
  rw [Site.watchedCallee?, Site.watchedCallee?, twins.twin_kind kept]
  split
  · next isCall =>
      have kind : site.kind ≠ "arguments" :=
        beq_iff_eq.mp isCall ▸ by decide
      obtain ⟨twinNone, none⟩ | ⟨_, _, twinSome, some, calleeKind, text⟩ :=
        twins.twin_node_child? kept kind "function" (by decide)
      · rw [twinNone, none]
      · simp only [twinSome, some, calleeKind, text]
  · rfl

/-- The watched calls of the other tree are the counterparts of the watched
calls. -/
theorem watchedCalls (watched : List String) :
    new.watchedCalls watched =
      (old.watchedCalls watched).map twins.watchedCall := by
  have silent : ∀ extra, twins.Extra extra →
      (extra.watchedCallee? watched).map
        (fun function => (⟨extra, function⟩ : WatchedCall)) = none := by
    intro extra isExtra
    rw [twins.watchedCallee?_of_extra watched isExtra, Option.map_none]
  rw [Node.watchedCalls, Node.watchedCalls, Node.walk_eq_sites,
    Node.walk_eq_sites, covers.sites.filterMap_eq silent,
    List.filterMap_map, List.map_filterMap]
  apply List.filterMap_congr
  intro site member
  rw [Function.comp_apply, covers.watchedCallee?_twin member, Option.map_map]
  rfl

/-! ## Arguments -/

theorem argumentList_twin (isWatched : call ∈ old.watchedCalls watched) :
    (twins.twin call.site).child? "arguments" =
      (call.site.child? "arguments").map twins.twin := by
  obtain ⟨member, isCall⟩ := Node.site_of_mem_watchedCalls isWatched
  have kind : call.site.kind ≠ "arguments" := isCall ▸ by decide
  exact twins.twin_child? (covers.kept call.site member) kind (by decide)

/-- The arguments of a call reappear when what is in its list does. -/
theorem callArguments_twin (isWatched : call ∈ old.watchedCalls watched)
    (listed : ∀ list, call.site.child? "arguments" = some list →
      twins.Listed list) :
    (twins.twin call.site).callArguments =
      call.site.callArguments.map twins.twin := by
  have sameList := covers.argumentList_twin isWatched
  have member := (Node.site_of_mem_watchedCalls isWatched).1
  rw [Site.callArguments, Site.callArguments, sameList]
  cases found : call.site.child? "arguments" with
  | none =>
      rfl
  | some list =>
      exact twins.twin_operands
        (covers.kept list (Node.child?_mem_sites member found))
        (listed list found)

theorem verdicts_twin (vocabulary : Vocabulary)
    (isWatched : call ∈ old.watchedCalls watched)
    (listed : ∀ list, call.site.child? "arguments" = some list →
      twins.Listed list) :
    (twins.watchedCall call).verdicts vocabulary
        (ScopeTable.ofTree new).resolve =
      call.verdicts vocabulary (ScopeTable.ofTree old).resolve := by
  have member := (Node.site_of_mem_watchedCalls isWatched).1
  rw [WatchedCall.verdicts, WatchedCall.verdicts, watchedCall,
    covers.callArguments_twin isWatched listed, List.map_map]
  apply List.map_congr_left
  intro argument isArgument
  exact covers.ofArgument_twin vocabulary
    (Site.mem_sites_of_mem_callArguments member isArgument)

/-! ## Recording -/

theorem issue?_twin (file : String) (lines : Option (List String))
    (isWatched : call ∈ old.watchedCalls watched)
    (listed : ∀ list, call.site.child? "arguments" = some list →
      twins.Listed list)
    (function : String) (index : Int) (risk : Risk) :
    Ledger.issue? file (twins.twin call.site) function index risk lines =
      Ledger.issue? file call.site function index risk lines := by
  have member := (Node.site_of_mem_watchedCalls isWatched).1
  have sameStart := twins.twin_start (covers.kept call.site member)
  simp only [Ledger.issue?, covers.callArguments_twin isWatched listed,
    List.length_map, List.getElem?_map]
  by_cases negative : index < 0
  · simp only [if_pos negative]
  simp only [if_neg negative]
  cases found : call.site.callArguments[index.toNat]? with
  | none =>
      rfl
  | some argument =>
      have argumentMember := Site.mem_sites_of_mem_callArguments member
        (List.mem_of_getElem? found)
      have sameText := twins.twin_text (covers.kept argument argumentMember)
      simp only [Option.map_some, Ledger.issueFor, sameStart, sameText]

theorem recordAll_twin (file : String) (lines : Option (List String))
    (isWatched : call ∈ old.watchedCalls watched)
    (listed : ∀ list, call.site.child? "arguments" = some list →
      twins.Listed list)
    (risks : List Risk) (first : Nat) (ledger : Ledger) :
    Ledger.recordAll file lines (twins.watchedCall call) ledger first risks =
      Ledger.recordAll file lines call ledger first risks := by
  induction risks generalizing first ledger with
  | nil =>
      rfl
  | cons risk rest inductionHypothesis =>
      have recorded := covers.issue?_twin file lines isWatched listed
        call.function first risk
      simp only [Ledger.recordAll, Ledger.record, inductionHypothesis]
      rw [watchedCall, recorded]

/-- When every list of children reappears, both trees have the same audit. -/
theorem ofTree_twin (listed : ∀ site ∈ old.sites, twins.Listed site)
    (file : String) (vocabulary : Vocabulary) (lines : Option (List String)) :
    Ledger.ofTree new file vocabulary lines =
      Ledger.ofTree old file vocabulary lines := by
  have audited : ∀ (calls : List WatchedCall) (ledger : Ledger),
      (∀ call ∈ calls, call ∈ old.watchedCalls vocabulary.watched) →
        (calls.map twins.watchedCall).foldlM
            (Ledger.auditCall file lines vocabulary
              (ScopeTable.ofTree new).resolve) ledger =
          calls.foldlM
            (Ledger.auditCall file lines vocabulary
              (ScopeTable.ofTree old).resolve) ledger := by
    intro calls
    induction calls with
    | nil =>
        intro ledger _
        rfl
    | cons call rest inductionHypothesis =>
        intro ledger allWatched
        rw [List.forall_mem_cons] at allWatched
        obtain ⟨isWatched, restWatched⟩ := allWatched
        have member := (Node.site_of_mem_watchedCalls isWatched).1
        have listReappears : ∀ list,
            call.site.child? "arguments" = some list → twins.Listed list :=
          fun list found => listed list (Node.child?_mem_sites member found)
        have here : Ledger.auditCall file lines vocabulary
            (ScopeTable.ofTree new).resolve ledger (twins.watchedCall call) =
              Ledger.auditCall file lines vocabulary
                (ScopeTable.ofTree old).resolve ledger call := by
          rw [Ledger.auditCall, Ledger.auditCall,
            covers.verdicts_twin vocabulary isWatched listReappears,
            covers.recordAll_twin file lines isWatched listReappears]
        rw [List.map_cons, List.foldlM_cons, List.foldlM_cons, here]
        congr 1
        funext next
        exact inductionHypothesis next restWatched
  rw [Ledger.ofTree, Ledger.ofTree, covers.watchedCalls]
  exact audited _ _ fun _ isWatched => isWatched

end Covers

end Counterparts

end CallAudit
