import CallAudit.Yaml.Node
import CallAudit.Yaml.Scan

/-!
# From tokens to nodes

The grammar of settings files.  A node can be given a name with an anchor; an
alias stands for the node of that name, which has to be complete.
-/

namespace CallAudit.Yaml

/-- What is left to read, and what is known from what was read. -/
structure TreeState where
  tokens : List Token
  /-- The fault that reading the text ended at. -/
  fault : Option Fault
  /-- The named nodes. -/
  anchors : List (String × Node) := []
  /-- The names of nodes that are not complete. -/
  opened : List String := []
  /-- What the handles of tags stand for. -/
  handles : List (String × String) := [("!", "!"), ("!!", standardStem)]

/-- Reading nodes, with faults. -/
abbrev TreeM := StateT TreeState (Except Fault)

namespace Tree

/-- The next token.  Where the tokens end, the fault they ended at comes up. -/
def peek : TreeM Token := do
  let state ← get
  match state.tokens with
  | token :: _ => pure token
  | [] => throw (state.fault.getD .malformed)

def advance : TreeM Unit :=
  modify fun state => { state with tokens := state.tokens.drop 1 }

def accept (expected : Token) : TreeM Bool := do
  if (← peek) = expected then
    advance
    pure true
  else
    pure false

/-- Go past the next token, which has to be a given one. -/
def expect (expected : Token) : TreeM Unit := do
  unless ← accept expected do
    throw .malformed

def anchor? : TreeM (Option String) := do
  match ← peek with
  | .anchor name =>
      advance
      pure (some name)
  | _ => pure none

def tagName? : TreeM (Option String) := do
  match ← peek with
  | .tag handle suffix =>
      advance
      match handle with
      | none => pure (some suffix)
      | some handle =>
          match (← get).handles.lookup handle with
          | some stem => pure (some (stem ++ suffix))
          | none => throw .malformed
  | _ => pure none

/-- The anchor and the tag of a node, in either order. -/
def properties : TreeM (Option String × Option String) := do
  match ← anchor? with
  | some anchor => pure (some anchor, ← tagName?)
  | none =>
      match ← tagName? with
      | some tag => pure (← anchor?, some tag)
      | none => pure (none, none)

def scalarTag (tag : Option String) (plain : Bool) (text : String) : Tag :=
  match tag with
  | none => if plain then .ofPlain text else .text
  | some "!" => .ofPlain text
  | some name => .ofName name

def collectionTag (tag : Option String) (fallback : Tag) : Tag :=
  match tag with
  | none => fallback
  | some "!" => fallback
  | some name => .ofName name

/-- Start a node with an anchor; the name has to be new. -/
def openAnchor : Option String → TreeM Unit
  | none => pure ()
  | some name => do
      let state ← get
      if (state.anchors.lookup name).isSome || state.opened.contains name then
        throw .malformed
      set { state with opened := name :: state.opened }

def closeAnchor (anchor : Option String) (node : Node) : TreeM Node := do
  match anchor with
  | none => pure ()
  | some name =>
      modify fun state =>
        { state with
          anchors := (name, node) :: state.anchors,
          opened := state.opened.filter (· ≠ name) }
  pure node

def aliased (name : String) : TreeM Node := do
  match (← get).anchors.lookup name with
  | some node => pure node
  | none => throw .malformed

/-- A node, unless one of the given tokens is next. -/
def unlessAt (stops : List Token) (read : TreeM Node) : TreeM Node := do
  if stops.contains (← peek) then pure .absent else read

def empty (anchor tag : Option String) : TreeM Node :=
  if anchor = none && tag = none then throw .malformed
  else pure (.scalar (scalarTag tag true "") "")

mutual

/-- Read a node.  Blocks are allowed outside brackets, and a sequence without
indentation of its own is allowed as a value in a block mapping. -/
def node : Nat → (block loose : Bool) → TreeM Node
  | 0, _, _ => throw .malformed
  | bound + 1, block, loose => do
      match ← peek with
      | .alias name =>
          advance
          aliased name
      | _ =>
          let (anchor, tag) ← properties
          openAnchor anchor
          closeAnchor anchor (← content bound block loose anchor tag)

def content :
    Nat → (block loose : Bool) → (anchor tag : Option String) → TreeM Node
  | 0, _, _, _, _ => throw .malformed
  | bound + 1, block, loose, anchor, tag => do
      let listed := collectionTag tag .sequence
      let keyed := collectionTag tag .mapping
      match ← peek with
      | .entry =>
          if loose then
            return .sequence listed (← looseEntries bound)
          else
            empty anchor tag
      | .scalar plain text =>
          advance
          return .scalar (scalarTag tag plain text) text
      | .flowSequence =>
          advance
          return .sequence listed (← flowItems bound true)
      | .flowMapping =>
          advance
          return .mapping keyed (← flowEntries bound true)
      | .blockSequence =>
          if block then
            advance
            return .sequence listed (← blockItems bound)
          else
            empty anchor tag
      | .blockMapping =>
          if block then
            advance
            return .mapping keyed (← blockEntries bound)
          else
            empty anchor tag
      | _ => empty anchor tag

def blockItems : Nat → TreeM (List Node)
  | 0 => throw .malformed
  | bound + 1 => do
      if ← accept .entry then
        let item ← unlessAt [.entry, .blockEnd] (node bound true false)
        return item :: (← blockItems bound)
      expect .blockEnd
      return []

/-- Read the entries of a sequence without indentation of its own. -/
def looseEntries : Nat → TreeM (List Node)
  | 0 => throw .malformed
  | bound + 1 => do
      if ← accept .entry then
        let item ←
          unlessAt [.entry, .key, .value, .blockEnd] (node bound true false)
        return item :: (← looseEntries bound)
      return []

def blockEntries : Nat → TreeM (List (Node × Node))
  | 0 => throw .malformed
  | bound + 1 => do
      if ← accept .key then
        let stops : List Token := [.key, .value, .blockEnd]
        let key ← unlessAt stops (node bound true true)
        let value ←
          if ← accept .value then unlessAt stops (node bound true true)
          else pure .absent
        return (key, value) :: (← blockEntries bound)
      expect .blockEnd
      return []

/-- Read the items of a sequence in brackets and its end. -/
def flowItems : Nat → (first : Bool) → TreeM (List Node)
  | 0, _ => throw .malformed
  | bound + 1, first => do
      if ← accept .flowSequenceEnd then
        return []
      unless first do
        expect .flowEntry
      if ← accept .key then
        let key ←
          unlessAt [.value, .flowEntry, .flowSequenceEnd] (node bound false false)
        let value ←
          if ← accept .value then
            unlessAt [.flowEntry, .flowSequenceEnd] (node bound false false)
          else
            pure .absent
        return .mapping .mapping [(key, value)] :: (← flowItems bound false)
      if ← accept .flowSequenceEnd then
        return []
      let item ← node bound false false
      return item :: (← flowItems bound false)

/-- Read the entries of a mapping in brackets and its end. -/
def flowEntries : Nat → (first : Bool) → TreeM (List (Node × Node))
  | 0, _ => throw .malformed
  | bound + 1, first => do
      if ← accept .flowMappingEnd then
        return []
      unless first do
        expect .flowEntry
      if ← accept .key then
        let key ←
          unlessAt [.value, .flowEntry, .flowMappingEnd] (node bound false false)
        let value ←
          if ← accept .value then
            unlessAt [.flowEntry, .flowMappingEnd] (node bound false false)
          else
            pure .absent
        return (key, value) :: (← flowEntries bound false)
      if ← accept .flowMappingEnd then
        return []
      let key ← node bound false false
      return (key, .absent) :: (← flowEntries bound false)

end

/-- Read the directives in front of a document.  A version may be given once
and has to be one of the first edition; a handle may be given once. -/
def directives :
    Nat → (versioned : Bool) → (handles : List (String × String)) → TreeM Unit
  | 0, _, _ => throw .malformed
  | bound + 1, versioned, handles => do
      match ← peek with
      | .version major =>
          if versioned || major ≠ 1 then
            throw .malformed
          advance
          directives bound true handles
      | .tagShorthand handle stem =>
          if (handles.lookup handle).isSome then
            throw .malformed
          advance
          directives bound versioned ((handle, stem) :: handles)
      | .otherDirective =>
          advance
          directives bound versioned handles
      | _ =>
          modify fun state => { state with handles := handles ++ state.handles }

def skipEnds : Nat → TreeM Unit
  | 0 => pure ()
  | bound + 1 => do
      if ← accept .documentEnd then
        skipEnds bound

def startsExplicitly : Token → Bool
  | .version _ => true
  | .tagShorthand _ _ => true
  | .otherDirective => true
  | .documentStart => true
  | _ => false

def explicitDocument (bound : Nat) : TreeM Node := do
  directives bound false []
  expect .documentStart
  let token ← peek
  if startsExplicitly token || token = .documentEnd || token = .textEnd then
    pure .absent
  else
    node bound true false

/-- Read a whole text: nothing, or one document. -/
def document (bound : Nat) : TreeM (Option Node) := do
  let token ← peek
  let root ←
    if startsExplicitly token then
      some <$> explicitDocument bound
    else if token = .textEnd then
      pure none
    else
      some <$> node bound true false
  skipEnds bound
  expect .textEnd
  pure root

end Tree

/-- The node that a text spells; nothing for a text without a document. -/
def nodeOf (text : String) : Except Fault (Option Node) :=
  let (tokens, fault) := tokensOf text
  let bound := 4 * tokens.size + 4
  (Tree.document bound).run' { tokens := tokens.toList, fault := fault }

end CallAudit.Yaml
