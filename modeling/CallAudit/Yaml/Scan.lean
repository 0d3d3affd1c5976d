import CallAudit.Yaml.Block
import CallAudit.Yaml.Plain
import CallAudit.Yaml.Tagging

/-!
# From text to tokens

Tokens are read from left to right.  Whether something is the key of a mapping
is only known at the colon after it, so the places where a key may have started
are remembered; at the colon, the tokens for the key, and for the start of the
mapping if it is the first key, are put in front of what was read since.

Outside brackets, indentation opens and closes blocks.
-/

namespace CallAudit.Yaml

/-- A place where the key of a mapping may have started. -/
structure KeyStart where
  /-- The number of tokens in front of it. -/
  position : Nat
  /-- Can the place hold nothing but a key? -/
  required : Bool
  index : Nat
  line : Nat
  column : Nat

/-- What is known while tokens are read. -/
structure Scan where
  cursor : Cursor
  tokens : Array Token := #[]
  /-- The number of brackets that are open. -/
  flow : Nat := 0
  /-- The indentation of the innermost block. -/
  indent : Int := -1
  /-- The indentations of the blocks around it, the nearest first. -/
  outer : List Int := []
  /-- May a key start here? -/
  keyAllowed : Bool := true
  /-- The places where a key may have started, by the number of open
  brackets. -/
  keyStarts : List (Nat × KeyStart) := []
  /-- Is the text at its end? -/
  finished : Bool := false

/-- Reading tokens, with faults. -/
abbrev ScanM := StateT Scan (Except Fault)

namespace Scan

def emit (token : Token) : ScanM Unit :=
  modify fun scan => { scan with tokens := scan.tokens.push token }

def moveTo (cursor : Cursor) : ScanM Unit :=
  modify fun scan => { scan with cursor := cursor }

def emitLong (count : Nat) (token : Token) : ScanM Unit := do
  moveTo ((← get).cursor.forward count)
  emit token

def allowKey (allowed : Bool) : ScanM Unit :=
  modify fun scan => { scan with keyAllowed := allowed }

/-- Skip blanks, comments and line ends.  Outside brackets, a key may start
after a line end. -/
def skipToToken : Nat → ScanM Unit
  | 0 => pure ()
  | bound + 1 => do
      let scan ← get
      let cursor := scan.cursor.skipComment
      match cursor.lineBreak? with
      | none => moveTo cursor
      | some (_, after) =>
          moveTo after
          if scan.flow = 0 then
            allowKey true
          skipToToken bound

/-- Forget the places where a key can no longer have started: those in earlier
lines and those far back. -/
def dropStaleKeys : ScanM Unit := do
  let scan ← get
  let stale (start : KeyStart) : Bool :=
    start.line ≠ scan.cursor.line || 1024 < scan.cursor.index - start.index
  if scan.keyStarts.any fun item => stale item.2 && item.2.required then
    throw .malformed
  set { scan with keyStarts := scan.keyStarts.filter fun item => !stale item.2 }

/-- Forget the place where a key may have started between the brackets that are
open now. -/
def dropKey : ScanM Unit := do
  let scan ← get
  match scan.keyStarts.lookup scan.flow with
  | none => pure ()
  | some start =>
      if start.required then
        throw .malformed
      set { scan with
        keyStarts := scan.keyStarts.filter fun item => item.1 ≠ scan.flow }

def noteKey : ScanM Unit := do
  if (← get).keyAllowed then
    dropKey
    let scan ← get
    let start : KeyStart :=
      { position := scan.tokens.size,
        required := scan.flow = 0 && scan.indent = scan.cursor.column,
        index := scan.cursor.index, line := scan.cursor.line,
        column := scan.cursor.column }
    set { scan with keyStarts := (scan.flow, start) :: scan.keyStarts }

/-- The blocks that are left open at a column, and the tokens that close the
others. -/
def closeBlocks (column : Int) :
    (outer : List Int) → (indent : Int) → List Int × Int × Nat
  | [], indent => ([], indent, 0)
  | enclosing :: outer, indent =>
      if column < indent then
        let (outer, indent, count) := closeBlocks column outer enclosing
        (outer, indent, count + 1)
      else
        (enclosing :: outer, indent, 0)

/-- Close the blocks that are indented more than a column. -/
def unwind (column : Int) : ScanM Unit :=
  modify fun scan =>
    if scan.flow ≠ 0 then
      scan
    else
      let (outer, indent, count) := closeBlocks column scan.outer scan.indent
      { scan with
        outer := outer, indent := indent,
        tokens := scan.tokens ++ (List.replicate count Token.blockEnd).toArray }

/-- Open a block at a column, unless one of that indentation is open.  The
token for its start goes to the given position. -/
def openBlock (token : Token) (column position : Nat) : ScanM Unit :=
  modify fun scan =>
    if scan.indent < (column : Int) then
      { scan with
        outer := scan.indent :: scan.outer, indent := column,
        tokens := scan.tokens.insertIdxIfInBounds position token }
    else
      scan

/-- Leave all blocks in front of something that stands between documents. -/
def leaveBlocks : ScanM Unit := do
  unwind (-1)
  dropKey
  allowKey false

def takeEnd : ScanM Unit := do
  leaveBlocks
  emit .textEnd
  modify fun scan => { scan with finished := true, keyStarts := [] }

def takeOpening (token : Token) : ScanM Unit := do
  noteKey
  modify fun scan => { scan with flow := scan.flow + 1 }
  allowKey true
  emitLong 1 token

def takeClosing (token : Token) : ScanM Unit := do
  dropKey
  if (← get).flow = 0 then
    throw .malformed
  modify fun scan => { scan with flow := scan.flow - 1 }
  allowKey false
  emitLong 1 token

/-- Outside brackets, start a block for a mark where a key may start, and
refuse the mark elsewhere. -/
def startBlock (token : Token) : ScanM Unit := do
  let scan ← get
  if scan.flow = 0 then
    if !scan.keyAllowed then
      throw .malformed
    openBlock token scan.cursor.column scan.tokens.size

def takeEntry : ScanM Unit := do
  startBlock .blockSequence
  allowKey true
  dropKey
  emitLong 1 .entry

def takeComma : ScanM Unit := do
  allowKey true
  dropKey
  emitLong 1 .flowEntry

def takeKey : ScanM Unit := do
  startBlock .blockMapping
  allowKey ((← get).flow = 0)
  dropKey
  emitLong 1 .key

def takeValue : ScanM Unit := do
  let scan ← get
  match scan.keyStarts.lookup scan.flow with
  | some start =>
      set { scan with
        keyStarts := scan.keyStarts.filter fun item => item.1 ≠ scan.flow,
        tokens := scan.tokens.insertIdxIfInBounds start.position .key }
      if scan.flow = 0 then
        openBlock .blockMapping start.column start.position
      allowKey false
  | none =>
      startBlock .blockMapping
      allowKey (scan.flow = 0)
      dropKey
  emitLong 1 .value

/-- Read an alias, an anchor or a tag. -/
def takeProperty (read : Cursor → Read) : ScanM Unit := do
  noteKey
  allowKey false
  let (token, after) ← read (← get).cursor
  moveTo after
  emit token

def takeBlock (folded : Bool) : ScanM Unit := do
  allowKey true
  dropKey
  let scan ← get
  let (text, after) ← readBlock folded scan.indent scan.cursor
  moveTo after
  emit (.scalar false (String.ofList text))

def takeQuoted (quote : Quote) : ScanM Unit := do
  noteKey
  allowKey false
  let (text, after) ← readQuoted quote (← get).cursor
  moveTo after
  emit (.scalar false (String.ofList text))

def takePlain : ScanM Unit := do
  noteKey
  let scan ← get
  let plain := readPlain (scan.flow ≠ 0) (scan.indent + 1) scan.cursor
  allowKey plain.crossed
  moveTo plain.after
  emit (.scalar true (String.ofList plain.text))

def takeDirective : ScanM Unit := do
  leaveBlocks
  let (token, after) ← readDirective (← get).cursor
  moveTo after
  emit token

def takeSeparator (token : Token) : ScanM Unit := do
  leaveBlocks
  emitLong 3 token

def startsPlain (inFlow : Bool) : List Char → Bool
  | [] => false
  | c :: rest =>
      let special := "-?:,[]\x7b\x7d#&*!|>'\"%@\x60".toList.contains c
      (!special && !isBlank c && !isBreak c) ||
        (!atWordEnd rest && (c = '-' || (!inFlow && (c = '?' || c = ':'))))

def takeToken (c : Char) (rest : List Char) : ScanM Unit := do
  let scan ← get
  let inFlow := scan.flow ≠ 0
  let atStart := scan.cursor.column = 0
  let spaced := atWordEnd rest
  if c = '%' && atStart then takeDirective
  else if c = '-' && atStart && atSeparator (c :: rest) then
    takeSeparator .documentStart
  else if c = '.' && atStart && atSeparator (c :: rest) then
    takeSeparator .documentEnd
  else if c = '[' then takeOpening .flowSequence
  else if c = '\x7b' then takeOpening .flowMapping
  else if c = ']' then takeClosing .flowSequenceEnd
  else if c = '\x7d' then takeClosing .flowMappingEnd
  else if c = ',' then takeComma
  else if c = '-' && spaced then takeEntry
  else if c = '?' && (inFlow || spaced) then takeKey
  else if c = ':' && (inFlow || spaced) then takeValue
  else if c = '*' then takeProperty (readName .alias)
  else if c = '&' then takeProperty (readName .anchor)
  else if c = '!' then takeProperty readTag
  else if c = '|' && !inFlow then takeBlock false
  else if c = '>' && !inFlow then takeBlock true
  else if c = '\'' then takeQuoted .single
  else if c = '"' then takeQuoted .double
  else if startsPlain inFlow (c :: rest) then takePlain
  else throw .malformed

/-- Read the next token, with the block ends in front of it. -/
def takeNext : ScanM Unit := do
  skipToToken ((← get).cursor.rest.length + 1)
  dropStaleKeys
  unwind (← get).cursor.column
  match (← get).cursor.rest with
  | [] => takeEnd
  | c :: rest => takeToken c rest

/-- Read tokens to the end of the text, or to the first fault. -/
def run : Nat → Scan → Array Token × Option Fault
  | 0, scan => (scan.tokens, none)
  | bound + 1, scan =>
      if scan.finished then
        (scan.tokens, none)
      else
        match takeNext scan with
        | .ok ((), scan) => run bound scan
        | .error fault => (scan.tokens, some fault)

end Scan

/-- May a character stand in the text of a settings file? -/
def isAllowed (c : Char) : Bool :=
  let n := c.toNat
  n = 0x09 || n = 0x0a || n = 0x0d || (0x20 ≤ n && n ≤ 0x7e) || n = 0x85 ||
    (0xa0 ≤ n && n ≤ 0xd7ff) || (0xe000 ≤ n && n ≤ 0xfffd) ||
    0x10000 ≤ n

/-- The tokens of a text, and the fault that reading ended at, if there was
one. -/
def tokensOf (text : String) : Array Token × Option Fault :=
  if !text.toList.all isAllowed then
    (#[], some .malformed)
  else
    let cursor := Cursor.ofText text
    let start :=
      if cursor.peek? = some (Char.ofNat 0xfeff) then cursor.next else cursor
    Scan.run (text.length + 2) { cursor := start }

end CallAudit.Yaml
