/-!
# Character columns

Trees count columns in bytes and readers count characters.  A byte column is
turned into a character column by counting the characters that lie wholly
within that many bytes of the line.
-/

namespace CallAudit.Text

/-- How many leading characters fit into a number of bytes. -/
def charsWithin : Nat → List Char → Nat
  | _, [] => 0
  | budget, c :: rest =>
      if c.utf8Size ≤ budget then
        1 + charsWithin (budget - c.utf8Size) rest
      else
        0

/-- The number of bytes that an index addresses in a text of a given size; a
negative index counts back from the end. -/
def clampIndex (size : Nat) (index : Int) : Nat :=
  if index < 0 then (size + index).toNat else index.toNat

def charColumn (line : String) (byteColumn : Int) : Nat :=
  charsWithin (clampIndex line.utf8ByteSize byteColumn) line.toList

/-- The line in a given row, when there is one. -/
def row? (lines : List String) (row : Int) : Option String :=
  if row < 0 then none else lines[row.toNat]?

/-- The column to show for a place: in characters when the line is at hand,
else in bytes. -/
def shownColumn
    (lines : Option (List String)) (row byteColumn : Int) : Int :=
  match lines.bind fun all => row? all row with
  | none => byteColumn
  | some line => charColumn line byteColumn

/-- The number to show for a row: lines count from one. -/
def shownLine (row : Int) : Int :=
  row + 1

end CallAudit.Text
