/-!
# Markup

Console messages are written in a markup language with tags between square
brackets.  Foreign text is escaped before it goes into a message, so that it is
shown as it is and never read as a tag.

* A tag opens with a bracket and a small letter, `#`, `/` or `@`, and ends with
  the next closing bracket; no other bracket opens inside it.
* A backslash in front of a tag makes it plain text, so backslashes that stand
  there already are doubled.
-/

namespace CallAudit.Markup

def startsTag (c : Char) : Bool :=
  ('a' ≤ c && c ≤ 'z') || c = '#' || c = '/' || c = '@'

def closes : List Char → Bool
  | [] => false
  | c :: rest => c = ']' || (c != '[' && closes rest)

/-- Does the text after an opening bracket make it a tag? -/
def isTag : List Char → Bool
  | [] => false
  | c :: rest => startsTag c && closes rest

/-- Escape a text that follows a number of backslashes.  A single backslash at
the end would act on what comes after the text, so it is doubled too. -/
def escapeFrom (slashes : Nat) : List Char → List Char
  | [] => if slashes = 1 then ['\\'] else []
  | c :: rest =>
      if c = '\\' then
        c :: escapeFrom (slashes + 1) rest
      else if c = '[' && isTag rest then
        List.replicate (slashes + 1) '\\' ++ c :: escapeFrom 0 rest
      else
        c :: escapeFrom 0 rest

def escape (text : String) : String :=
  String.ofList (escapeFrom 0 text.toList)

def inStyle (style text : String) : String :=
  "[" ++ style ++ "]" ++ text ++ "[/" ++ style ++ "]"

/-- The characters of a message without its tags.  Of the backslashes in front
of a bracket that looks like a tag half remain, and an odd one makes the bracket
plain text. -/
def shownFrom (inTag : Bool) (slashes : Nat) : List Char → List Char
  | [] => List.replicate slashes '\\'
  | c :: rest =>
      if inTag then
        shownFrom (c != ']') 0 rest
      else if c = '\\' then
        shownFrom false (slashes + 1) rest
      else if c = '[' && isTag rest then
        List.replicate (slashes / 2) '\\' ++
          (if slashes % 2 = 1 then c :: shownFrom false 0 rest
            else shownFrom true 0 rest)
      else
        List.replicate slashes '\\' ++ c :: shownFrom false 0 rest

def shown (message : String) : String :=
  String.ofList (shownFrom false 0 message.toList)

end CallAudit.Markup
