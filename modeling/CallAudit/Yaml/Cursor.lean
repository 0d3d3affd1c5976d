/-!
# Reading positions

A position in the text of a settings file: what is left to read, how many
characters were read, and the line and column reached.  Four characters end a
line: the line feed, the next-line character and the two separators.
-/

namespace CallAudit.Yaml

def isBreak (c : Char) : Bool :=
  c = '\n' || c = Char.ofNat 0x85 || c = Char.ofNat 0x2028 ||
    c = Char.ofNat 0x2029

def isBlank (c : Char) : Bool :=
  c = ' ' || c = '\t'

def isNameChar (c : Char) : Bool :=
  c.isAlphanum || c = '-' || c = '_'

/-- Can no word go on here: does the text end, or go on with a blank or a line
end? -/
def atWordEnd : List Char → Bool
  | [] => true
  | c :: _ => isBlank c || isBreak c

/-- Does the text end here, or its line, or does a space follow? -/
def atFieldEnd : List Char → Bool
  | [] => true
  | c :: _ => c = ' ' || isBreak c

def atLineEnd : List Char → Bool
  | [] => true
  | c :: _ => isBreak c

def atSeparator : List Char → Bool
  | '-' :: '-' :: '-' :: rest => atWordEnd rest
  | '.' :: '.' :: '.' :: rest => atWordEnd rest
  | _ => false

/-- A position in a text. -/
structure Cursor where
  rest : List Char
  index : Nat
  line : Nat
  column : Nat
  deriving DecidableEq, Repr

namespace Cursor

def ofText (text : String) : Cursor :=
  ⟨text.toList, 0, 0, 0⟩

/-- The position after the next character.  A byte order mark has no width. -/
def next (cursor : Cursor) : Cursor :=
  match cursor.rest with
  | [] => cursor
  | c :: rest =>
      if isBreak c then ⟨rest, cursor.index + 1, cursor.line + 1, 0⟩
      else if c = Char.ofNat 0xfeff then
        ⟨rest, cursor.index + 1, cursor.line, cursor.column⟩
      else ⟨rest, cursor.index + 1, cursor.line, cursor.column + 1⟩

def forward : Nat → Cursor → Cursor
  | 0, cursor => cursor
  | count + 1, cursor => forward count cursor.next

def peek? (cursor : Cursor) : Option Char :=
  cursor.rest.head?

/-- The longest run of characters of a class, and the position after it. -/
def span (inClass : Char → Bool) (cursor : Cursor) : List Char × Cursor :=
  let run := cursor.rest.takeWhile inClass
  (run, cursor.forward run.length)

/-- The position after the longest run of characters of a class. -/
def skip (inClass : Char → Bool) (cursor : Cursor) : Cursor :=
  (cursor.span inClass).2

/-- The line end at a position: the character it stands for, and the position
after it. -/
def lineBreak? (cursor : Cursor) : Option (Char × Cursor) :=
  match cursor.rest with
  | [] => none
  | c :: _ =>
      if c = '\n' || c = Char.ofNat 0x85 then some ('\n', cursor.next)
      else if isBreak c then some (c, cursor.next)
      else none

/-- The position after a line end, if there is one. -/
def skipBreak (cursor : Cursor) : Cursor :=
  (cursor.lineBreak?.map Prod.snd).getD cursor

def skipComment (cursor : Cursor) : Cursor :=
  let cursor := cursor.skip (· = ' ')
  if cursor.peek? = some '#' then cursor.skip fun c => !isBreak c else cursor

end Cursor

/-- What a line end and the empty lines after it become inside a text that is
folded: a space for a lone line feed, else the empty lines. -/
def foldBreaks (first : Char) (others : List Char) : List Char :=
  if first ≠ '\n' then first :: others
  else if others.isEmpty then [' ']
  else others

end CallAudit.Yaml
