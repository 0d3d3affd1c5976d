import CallAudit.Yaml.Cursor

/-!
# Plain texts

A text without quotes goes on over blanks and line ends until something that
cannot belong to it: a comment, a colon at the end of a word, a mark between
documents, less indentation than its block has, or, inside brackets, one of the
marks that brackets use.
-/

namespace CallAudit.Yaml

def colonEnds (inFlow : Bool) : List Char → Bool
  | [] => true
  | c :: rest =>
      atWordEnd (c :: rest) || (inFlow && [',', '[', ']', '\x7b', '\x7d'].contains c)

def plainChunk (inFlow : Bool) : List Char → List Char
  | [] => []
  | c :: rest =>
      if isBlank c || isBreak c then []
      else if c = ':' && colonEnds inFlow rest then []
      else if inFlow && [',', '?', '[', ']', '\x7b', '\x7d'].contains c then []
      else c :: plainChunk inFlow rest

/-- What lies between two pieces of a plain text. -/
structure Gap where
  /-- What the gap stands for, if the text goes on after it. -/
  text : List Char
  /-- The position after the gap. -/
  after : Cursor
  /-- Does a line end in the gap? -/
  crossed : Bool
  /-- Is the text over at the gap? -/
  closed : Bool

/-- Read the empty lines and the indentation after a line end.  The flag tells
whether a mark between documents was met. -/
def plainBreaks : Nat → Cursor → List Char → List Char × Cursor × Bool
  | 0, cursor, breaks => (breaks, cursor, false)
  | bound + 1, cursor, breaks =>
      if cursor.peek? = some ' ' then
        plainBreaks bound cursor.next breaks
      else
        match cursor.lineBreak? with
        | none => (breaks, cursor, false)
        | some (mark, after) =>
            if atSeparator after.rest then (breaks, after, true)
            else plainBreaks bound after (breaks ++ [mark])

def plainGap (cursor : Cursor) : Gap :=
  let (spaces, after) := cursor.span (· = ' ')
  match after.lineBreak? with
  | none => ⟨spaces, after, false, spaces.isEmpty⟩
  | some (mark, after) =>
      if atSeparator after.rest then
        ⟨[], after, true, true⟩
      else
        let (breaks, after, separated) :=
          plainBreaks after.rest.length after []
        ⟨foldBreaks mark breaks, after, true, separated⟩

/-- A plain text, where reading goes on after it, and whether a line ended
between the last piece of the text and that place. -/
structure PlainText where
  text : List Char
  after : Cursor
  crossed : Bool

/-- Read pieces of a plain text.  `pending` is the gap in front of the next
piece. -/
def plainPieces (inFlow : Bool) (indent : Int) :
    Nat → Cursor → (text pending : List Char) → (crossed : Bool) → PlainText
  | 0, cursor, text, _, crossed => ⟨text, cursor, crossed⟩
  | bound + 1, cursor, text, pending, crossed =>
      let chunk := plainChunk inFlow cursor.rest
      if cursor.peek? = some '#' || chunk.isEmpty then
        ⟨text, cursor, crossed⟩
      else
        let text := text ++ pending ++ chunk
        let gap := plainGap (cursor.forward chunk.length)
        if gap.closed || gap.after.peek? = some '#' ||
            (!inFlow && (gap.after.column : Int) < indent) then
          ⟨text, gap.after, gap.crossed⟩
        else
          plainPieces inFlow indent bound gap.after text gap.text gap.crossed

def readPlain (inFlow : Bool) (indent : Int) (cursor : Cursor) : PlainText :=
  plainPieces inFlow indent cursor.rest.length cursor [] [] false

end CallAudit.Yaml
