import CallAudit.Tree.Basic

/-!
# Cursors

A cursor is a place in a source together with the characters that follow it.
Moving a cursor forward keeps count of bytes, rows and columns, so the span,
the start and the text of a node can be read off the two cursors around it.
-/

namespace CallAudit.Grammar

/-- A place in a source and what follows it; `left` is the number of the
characters that follow. -/
structure Cursor where
  rest : List Char
  left : Nat
  offset : Nat
  row : Nat
  column : Nat
  deriving Inhabited

namespace Cursor

def front (text : String) : Cursor :=
  let characters := text.toList
  ⟨characters, characters.length, 0, 0, 0⟩

/-- The cursor behind a character, of which `rest` is left over. -/
def past (cursor : Cursor) (c : Char) (rest : List Char) : Cursor :=
  if c = '\n' then
    ⟨rest, cursor.left - 1, cursor.offset + 1, cursor.row + 1, 0⟩
  else
    ⟨rest, cursor.left - 1, cursor.offset + c.utf8Size, cursor.row,
      cursor.column + c.utf8Size⟩

/-- The cursor one character further, if there is one. -/
def next (cursor : Cursor) : Cursor :=
  match cursor.rest with
  | [] => cursor
  | c :: rest => cursor.past c rest

def forward (cursor : Cursor) : Nat → Cursor
  | 0 => cursor
  | count + 1 => cursor.next.forward count

/-- The cursor behind the leading characters of a class. -/
def skipWhile (inClass : Char → Bool) (cursor : Cursor) : Cursor :=
  go cursor.rest cursor
where
  /-- Walk along the characters that follow the cursor. -/
  go : List Char → Cursor → Cursor
    | [], here => here
    | c :: rest, here =>
        if inClass c then go rest (here.past c rest) else here

def char? (cursor : Cursor) : Option Char :=
  cursor.rest.head?

def sees (cursor : Cursor) (text : String) : Bool :=
  text.toList.isPrefixOf cursor.rest

def atEnd (cursor : Cursor) : Bool :=
  cursor.rest.isEmpty

def textTo (start stop : Cursor) : String :=
  String.ofList (start.rest.take (start.left - stop.left))

def point (cursor : Cursor) : Point :=
  ⟨cursor.row, cursor.column⟩

def nodeTo (start : Cursor) (kind : String) (stop : Cursor)
    (children : List Node) : Node :=
  .node
    { kind := kind, span := ⟨start.offset, stop.offset⟩,
      start := start.point, text := start.textTo stop }
    children

/-- The punctuation between two cursors, in a given role. -/
def tokenTo (start : Cursor) (role : String) (stop : Cursor) : Node :=
  let text := start.textTo stop
  .node
    { kind := text, field := some role, named := false,
      span := ⟨start.offset, stop.offset⟩, start := start.point, text := text }
    []

end Cursor

end CallAudit.Grammar
