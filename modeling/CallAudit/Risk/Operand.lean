import CallAudit.Tree.Walk

/-!
# Shapes of operands

Looking through parentheses and conditionals, and the questions about access
chains that a verdict depends on.
-/

namespace CallAudit

def parenthesesKind : String :=
  "parenthesized_expression"

def conditionalKind : String :=
  "ternary_expression"

/-! ## Parentheses -/

mutual

/-- The expression inside redundant parentheses; parentheses around nothing
stand for themselves. -/
def Node.unwrapAt (path : Path) (ancestors : List Node) : Node → Site
  | .node label children =>
      if label.kind == parenthesesKind then
        (unwrapFirst? path (.node label children :: ancestors) 0 children).getD
          ⟨path, ancestors, .node label children⟩
      else
        ⟨path, ancestors, .node label children⟩

/-- The first operand among siblings, out of its own parentheses. -/
def unwrapFirst? (path : Path) (ancestors : List Node) (first : Nat) :
    List Node → Option Site
  | [] => none
  | child :: rest =>
      if child.isOperand then
        some (child.unwrapAt (first :: path) ancestors)
      else
        unwrapFirst? path ancestors (first + 1) rest

end

/-- The site of the expression inside redundant parentheses. -/
def Site.unwrap (site : Site) : Site :=
  site.node.unwrapAt site.path site.ancestors

/-! ## Conditionals -/

mutual

theorem Node.size_unwrapAt_le (path : Path) (ancestors : List Node) :
    ∀ tree : Node, (tree.unwrapAt path ancestors).node.size ≤ tree.size
  | .node label children => by
      rw [Node.unwrapAt]
      split
      · cases found :
          unwrapFirst? path (.node label children :: ancestors) 0 children with
        | none =>
            exact Nat.le_refl _
        | some inner =>
            have bound := size_unwrapFirst?_le _ _ _ children inner found
            rw [Option.getD_some, Node.size]
            omega
      · exact Nat.le_refl _

theorem size_unwrapFirst?_le
    (path : Path) (ancestors : List Node) (first : Nat) :
    ∀ (nodes : List Node) (inner : Site),
      unwrapFirst? path ancestors first nodes = some inner →
        inner.node.size ≤ sizeAmong nodes
  | [], inner, found => by
      simp [unwrapFirst?] at found
  | child :: rest, inner, found => by
      rw [unwrapFirst?] at found
      rw [sizeAmong]
      split at found
      · cases found
        have bound := child.size_unwrapAt_le (first :: path) ancestors
        omega
      · have bound := size_unwrapFirst?_le path ancestors _ rest inner found
        omega

end

namespace Site

theorem size_unwrap_le (site : Site) :
    site.unwrap.node.size ≤ site.node.size :=
  site.node.size_unwrapAt_le site.path site.ancestors

/-- The branches of a conditional, the chosen one first. -/
def branches (site : Site) : List Site :=
  (site.child? "consequence").toList ++ (site.child? "alternative").toList

theorem pendingSize_find?_le (wanted : Site → Bool) (sites : List Site) :
    pendingSize (sites.find? wanted).toList ≤ pendingSize sites := by
  induction sites with
  | nil =>
      simp
  | cons site rest inductionHypothesis =>
      simp only [pendingSize, List.map_cons, sizeAmong] at *
      rw [List.find?_cons]
      split
      · simp [sizeAmong]
      · omega

/-- Two different children of a site are no larger than all of them. -/
theorem pendingSize_find?_append_find?_le
    {left right : Site → Bool}
    (exclusive : ∀ site, left site = true → right site = false)
    (sites : List Site) :
    pendingSize ((sites.find? left).toList ++ (sites.find? right).toList) ≤
      pendingSize sites := by
  induction sites with
  | nil =>
      simp
  | cons site rest inductionHypothesis =>
      have leftBound := pendingSize_find?_le left rest
      have rightBound := pendingSize_find?_le right rest
      simp only [pendingSize, List.map_append, List.map_cons,
        sizeAmong_append, sizeAmong] at *
      rw [List.find?_cons, List.find?_cons]
      cases isLeft : left site with
      | true =>
          simp only [exclusive site isLeft, Option.toList_some, List.map_cons,
            List.map_nil, sizeAmong]
          omega
      | false =>
          cases right site with
          | true =>
              simp only [Option.toList_some, List.map_cons, List.map_nil,
                sizeAmong]
              omega
          | false =>
              simp only
              omega

theorem pendingSize_branches_le (site : Site) :
    pendingSize site.branches ≤ sizeAmong site.node.children := by
  rw [← map_node_children]
  apply pendingSize_find?_append_find?_le
  intro child isConsequence
  have role := beq_iff_eq.mp isConsequence
  simp [role]

theorem pendingSize_branches_lt (site : Site) (pending : List Site) :
    pendingSize (site.unwrap.branches ++ pending) <
      pendingSize (site :: pending) := by
  have branchBound := pendingSize_branches_le site.unwrap
  have unwrapBound := size_unwrap_le site
  rw [Node.size_eq] at unwrapBound
  simp only [pendingSize, List.map_append, List.map_cons, sizeAmong_append,
    sizeAmong] at *
  omega

theorem pendingSize_tail_lt (site : Site) (pending : List Site) :
    pendingSize pending < pendingSize (site :: pending) := by
  have positive := site.node.size_eq
  simp only [pendingSize, List.map_cons, sizeAmong]
  omega

/-- The leaves of the expressions on a stack: parentheses are looked through,
and a conditional gives way to its branches. -/
def leavesFrom : List Site → List Site
  | [] => []
  | site :: pending =>
      if site.unwrap.kind == conditionalKind then
        leavesFrom (site.unwrap.branches ++ pending)
      else
        site.unwrap :: leavesFrom pending
termination_by stack => pendingSize stack
decreasing_by
  · exact pendingSize_branches_lt site pending
  · exact pendingSize_tail_lt site pending

def leaves (site : Site) : List Site :=
  leavesFrom [site]

end Site

/-! ## Access chains -/

def memberKinds : List String :=
  ["member_expression", "subscript_expression"]

/-- Does a node itself carry the mark of a short-circuiting access? -/
def Node.hasOptionalMark (tree : Node) : Bool :=
  tree.children.any fun child => child.kind == "optional_chain"

mutual

/-- Does an access chain short-circuit anywhere from here down to its base? -/
def Node.shortCircuits : Node → Bool
  | .node label children =>
      if label.kind == parenthesesKind then
        shortCircuitsFirst children
      else if memberKinds.contains label.kind then
        (Node.node label children).hasOptionalMark ||
          shortCircuitsIn "object" children
      else if label.kind == "call_expression" then
        (Node.node label children).hasOptionalMark ||
          shortCircuitsIn "function" children
      else
        false

/-- The same question for the first operand among siblings. -/
def shortCircuitsFirst : List Node → Bool
  | [] => false
  | child :: rest =>
      if child.isOperand then child.shortCircuits else shortCircuitsFirst rest

/-- The same question for the first sibling with a given role. -/
def shortCircuitsIn (role : String) : List Node → Bool
  | [] => false
  | child :: rest =>
      if child.field == some role then
        child.shortCircuits
      else
        shortCircuitsIn role rest

end

/-- The text between the quotes of a literal: all but its first and last
character. -/
def unquoted (literal : String) : String :=
  String.ofList ((literal.toList.drop 1).dropLast)

/-- The property that an access names, where it can be read off: a bare
property name, or a string between brackets. -/
def Node.propertyKey? (access : Node) : Option String :=
  if access.kind == "member_expression" then
    (access.child? "property").map Node.text
  else
    match access.child? "index" with
    | some index =>
        if index.kind == "string" then some (unquoted index.text) else none
    | none => none

/-- How the accessed property is written after a short-circuiting dot. -/
def Node.propertySuffix (access : Node) : String :=
  if access.kind == "member_expression" then
    ((access.child? "property").map Node.text).getD ""
  else
    match access.child? "index" with
    | some index => "[" ++ index.text ++ "]"
    | none => "[]"

/-- Remove quotation marks of both sorts from the two ends of a key. -/
def trimQuotes (key : String) : String :=
  let isQuote := fun c : Char => c == '\'' || c == '"'
  String.ofList
    (((key.toList.dropWhile isQuote).reverse.dropWhile isQuote).reverse)

/-- Does an entry of an object pattern give a property a default? -/
def Node.givesDefault (key : String) (entry : Node) : Bool :=
  if entry.kind == "object_assignment_pattern" then
    match entry.child? "left" with
    | some left => left.text == key
    | none => false
  else if entry.kind == "pair_pattern" then
    match entry.child? "key", entry.child? "value" with
    | some name, some value =>
        trimQuotes name.text == key && value.kind == "assignment_pattern"
    | _, _ => false
  else
    false

/-- Does the nearest declarator around an access take the accessed property
apart with a default? -/
def Site.hasDestructuringDefault (site : Site) : Bool :=
  match site.node.propertyKey? with
  | none => false
  | some key =>
      match site.ancestors.find? fun node => node.kind == "variable_declarator" with
      | none => false
      | some declarator =>
          match declarator.child? "name" with
          | none => false
          | some pattern =>
              pattern.kind == "object_pattern" &&
                pattern.namedChildren.any (Node.givesDefault key)

end CallAudit
