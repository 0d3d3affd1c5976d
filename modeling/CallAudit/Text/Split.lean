/-!
# Splitting at a separator

A text with `n` separators has `n + 1` parts, some of them perhaps empty.
-/

namespace CallAudit.Text

/-- Put a character in front of the parts that follow it. -/
def splitStep (separator c : Char) : List (List Char) → List (List Char)
  | [] => [[c]]
  | part :: rest =>
      if c = separator then [] :: part :: rest else (c :: part) :: rest

def splitChars (separator : Char) (text : List Char) : List (List Char) :=
  text.foldr (splitStep separator) [[]]

def split (separator : Char) (text : String) : List String :=
  (splitChars separator text.toList).map String.ofList

/-- The lines of a text; only the line feed ends a line. -/
def lines (text : String) : List String :=
  split '\n' text

def joinWith (separator : String) (parts : List String) : String :=
  separator.intercalate parts

end CallAudit.Text
