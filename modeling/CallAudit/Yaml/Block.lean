import CallAudit.Yaml.Cursor
import CallAudit.Yaml.Fault

/-!
# Block texts

A text of indented lines after a bar or an angle.  A bar keeps the line ends,
an angle folds them, and a sign tells what becomes of the line ends at the end
of the text.
-/

namespace CallAudit.Yaml

/-- What becomes of the line ends at the end of a block text. -/
inductive Ending where
  | one
  | every
  | none
  deriving DecidableEq, Repr

/-- The header of a block text: the treatment of its end, and how much it is
indented, if that is given. -/
structure BlockHeader where
  ending : Ending := .one
  increment : Option Nat := Option.none

def ending? : Option Char → Option Ending
  | some '+' => some .every
  | some '-' => some .none
  | _ => Option.none

/-- The indentation that a digit asks for; zero is refused. -/
def increment? (c : Option Char) : Except Fault (Option Nat) :=
  match c with
  | Option.none => .ok Option.none
  | some c =>
      if c = '0' then .error .malformed
      else if c.isDigit then .ok (some (c.toNat - 48))
      else .ok Option.none

def readHeader (cursor : Cursor) : Except Fault (BlockHeader × Cursor) := do
  let (header, cursor) ←
    match ending? cursor.peek? with
    | some ending => do
        let cursor := cursor.next
        match ← increment? cursor.peek? with
        | some count => pure (⟨ending, some count⟩, cursor.next)
        | Option.none => pure (⟨ending, Option.none⟩, cursor)
    | Option.none => do
        match ← increment? cursor.peek? with
        | some count =>
            let cursor := cursor.next
            match ending? cursor.peek? with
            | some ending => pure (⟨ending, some count⟩, cursor.next)
            | Option.none => pure (⟨.one, some count⟩, cursor)
        | Option.none => pure (({} : BlockHeader), cursor)
  if !atFieldEnd cursor.rest then
    throw .malformed
  let cursor := cursor.skipComment
  if !atLineEnd cursor.rest then
    throw .malformed
  pure (header, cursor.skipBreak)

/-- Read empty lines and find the deepest indentation among them and the first
line that is not empty. -/
def deepestIndent :
    Nat → Cursor → (breaks : List Char) → (deepest : Nat) →
      List Char × Nat × Cursor
  | 0, cursor, breaks, deepest => (breaks, deepest, cursor)
  | bound + 1, cursor, breaks, deepest =>
      if cursor.peek? = some ' ' then
        deepestIndent bound cursor.next breaks (max deepest cursor.next.column)
      else
        match cursor.lineBreak? with
        | Option.none => (breaks, deepest, cursor)
        | some (mark, after) =>
            deepestIndent bound after (breaks ++ [mark]) deepest

def skipIndent (indent : Nat) : Nat → Cursor → Cursor
  | 0, cursor => cursor
  | bound + 1, cursor =>
      if cursor.column < indent && cursor.peek? = some ' ' then
        skipIndent indent bound cursor.next
      else
        cursor

/-- Read empty lines and the indentation of the line after them. -/
def blockBreaks (indent : Nat) :
    Nat → Cursor → List Char → List Char × Cursor
  | 0, cursor, breaks => (breaks, cursor)
  | bound + 1, cursor, breaks =>
      let cursor := skipIndent indent indent cursor
      match cursor.lineBreak? with
      | Option.none => (breaks, cursor)
      | some (mark, after) => blockBreaks indent bound after (breaks ++ [mark])

def breakText (cursor : Cursor) : List Char :=
  (cursor.lineBreak?.map Prod.fst).toList

/-- What a block text holds so far. -/
structure BlockLines where
  text : List Char
  lastBreak : List Char
  breaks : List Char
  after : Cursor

def blockLines (folded : Bool) (indent : Nat) : Nat → BlockLines → BlockLines
  | 0, lines => lines
  | bound + 1, lines =>
      let cursor := lines.after
      if cursor.column ≠ indent || cursor.rest.isEmpty then
        lines
      else
        let leading := !(cursor.peek?.any isBlank)
        let (line, ended) := cursor.span fun c => !isBreak c
        let mark := breakText ended
        let (breaks, after) :=
          blockBreaks indent (ended.rest.length + 1) ended.skipBreak []
        let text := lines.text ++ lines.breaks ++ line
        if after.column = indent && !after.rest.isEmpty then
          let joined := folded && mark = ['\n'] && leading &&
            !(after.peek?.any isBlank)
          let link :=
            if joined then (if breaks.isEmpty then [' '] else []) else mark
          blockLines folded indent bound ⟨text ++ link, mark, breaks, after⟩
        else
          ⟨text, mark, breaks, after⟩

/-- The block text at a position, which is at its bar or angle, inside a block
with a given indentation. -/
def readBlock (folded : Bool) (outer : Int) (cursor : Cursor) :
    Except Fault (List Char × Cursor) := do
  let (header, cursor) ← readHeader cursor.next
  let least := (max (outer + 1) 1).toNat
  let bound := cursor.rest.length + 1
  let (indent, breaks, cursor) :=
    match header.increment with
    | some count =>
        let indent := least + count - 1
        let (breaks, cursor) := blockBreaks indent bound cursor []
        (indent, breaks, cursor)
    | Option.none =>
        let (breaks, deepest, cursor) := deepestIndent bound cursor [] 0
        (max least deepest, breaks, cursor)
  let lines := blockLines folded indent bound ⟨[], [], breaks, cursor⟩
  let tail :=
    match header.ending with
    | .none => []
    | .one => lines.lastBreak
    | .every => lines.lastBreak ++ lines.breaks
  pure (lines.text ++ tail, lines.after)

end CallAudit.Yaml
