/-!
# Glob patterns

A pattern is a list of pieces, each of which matches one character, or, for a
star, any number of characters.  Slashes and line ends are characters like any
other, and capital and small letters differ.

* A set such as `[a-z_]` matches one of its characters, and `[!a-z]` matches
  any other character.
* A closing bracket directly after the opening of a set is a member of it, and
  a bracket that is never closed stands for itself.
* A range whose ends are in the wrong order has no members.
-/

namespace CallAudit

/-- A member of a set: a character, or all characters between two ends. -/
inductive GlobItem where
  | single (c : Char)
  | range (low high : Char)
  deriving DecidableEq, Repr

inductive GlobPiece where
  | star
  | anyChar
  | literal (c : Char)
  | oneOf (items : List GlobItem)
  | noneOf (items : List GlobItem)
  deriving DecidableEq, Repr

abbrev Glob := List GlobPiece

namespace GlobItem

def has (c : Char) : GlobItem → Bool
  | .single member => c = member
  | .range low high => low ≤ c && c ≤ high

def inhabitable : GlobItem → Bool
  | .single _ => true
  | .range low high => low ≤ high

/-- The items that the inside of a set lists.  A dash between two characters
makes a range of them. -/
def listed : List Char → List GlobItem
  | low :: '-' :: high :: rest => .range low high :: listed rest
  | c :: rest => .single c :: listed rest
  | [] => []

def members (inside : List Char) : List GlobItem :=
  (listed inside).filter inhabitable

end GlobItem

namespace GlobPiece

/-- The piece for a set that does not begin with a negation.  Once ranges
without members are gone, an exclamation mark may have come to the front; it
then negates what follows it, and the dash of a range that it was the start of
counts as a member. -/
def ofMembers : List GlobItem → GlobPiece
  | .single '!' :: rest => .noneOf rest
  | .range '!' high :: rest => .noneOf (.single '-' :: .single high :: rest)
  | items => .oneOf items

def ofSet : List Char → GlobPiece
  | '!' :: inside => .noneOf (GlobItem.members inside)
  | inside => ofMembers (GlobItem.members inside)

def hasChar (c : Char) : GlobPiece → Bool
  | .star => false
  | .anyChar => true
  | .literal expected => c = expected
  | .oneOf items => items.any (·.has c)
  | .noneOf items => !items.any (·.has c)

end GlobPiece

namespace Glob

def untilBracket : List Char → Option (List Char × List Char)
  | [] => none
  | ']' :: rest => some ([], rest)
  | c :: rest =>
      (untilBracket rest).map fun found => (c :: found.1, found.2)

/-- The inside of a set and what follows it, read after the opening bracket.
A negation, and then a bracket, may stand in front of the search for the end. -/
def setInside? : List Char → Option (List Char × List Char)
  | '!' :: ']' :: rest =>
      (untilBracket rest).map fun found => ('!' :: ']' :: found.1, found.2)
  | '!' :: rest =>
      (untilBracket rest).map fun found => ('!' :: found.1, found.2)
  | ']' :: rest =>
      (untilBracket rest).map fun found => (']' :: found.1, found.2)
  | text => untilBracket text

/-- The pieces of a pattern, read with a bound on their number. -/
def readWithin : Nat → List Char → Glob
  | 0, _ => []
  | _ + 1, [] => []
  | bound + 1, '*' :: rest => .star :: readWithin bound rest
  | bound + 1, '?' :: rest => .anyChar :: readWithin bound rest
  | bound + 1, '[' :: rest =>
      match setInside? rest with
      | some (inside, after) => .ofSet inside :: readWithin bound after
      | none => .literal '[' :: readWithin bound rest
  | bound + 1, c :: rest => .literal c :: readWithin bound rest

/-- The pattern that a text spells.  Each piece uses up a character. -/
def ofChars (text : List Char) : Glob :=
  readWithin text.length text

/-- Does some end part of a text, the whole and the empty one included, pass a
test? -/
def someEnd (test : List Char → Bool) : List Char → Bool
  | [] => test []
  | c :: rest => test (c :: rest) || someEnd test rest

def accepts : Glob → List Char → Bool
  | [], text => text.isEmpty
  | .star :: rest, text => someEnd (accepts rest) text
  | _ :: _, [] => false
  | piece :: rest, c :: text => piece.hasChar c && accepts rest text

end Glob

/-- Does the pattern that a text spells match the whole of another text? -/
def globMatches (pattern text : String) : Bool :=
  (Glob.ofChars pattern.toList).accepts text.toList

end CallAudit
