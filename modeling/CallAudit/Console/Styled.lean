/-!
# Styled texts

A text for the console with styles on parts of it.  Characters that would move
the cursor or ring the bell are left out of the text.
-/

namespace CallAudit

/-- A style on the characters from `start` up to `stop`. -/
structure StyleSpan where
  start : Nat
  stop : Nat
  style : String
  deriving DecidableEq, Repr

/-- A text with a style of its own and styles on parts of it. -/
structure Styled where
  plain : String
  spans : List StyleSpan := []
  style : String := ""
  deriving DecidableEq, Repr, Inhabited

namespace Styled

/-- Is a character left out of a text for the console?  These are the bell, the
backspace, the vertical tab, the form feed and the carriage return. -/
def isControl (c : Char) : Bool :=
  [7, 8, 11, 12, 13].contains c.toNat

def cleaned (text : String) : String :=
  String.ofList (text.toList.filter fun c => !isControl c)

def ofText (text style : String) : Styled :=
  { plain := cleaned text, style := style }

def empty : Styled :=
  { plain := "" }

/-- Put text at the end.  Its style is noted unless the text is empty or the
style is. -/
def append (styled : Styled) (text style : String) : Styled :=
  let start := styled.plain.length
  let fresh := cleaned text
  { styled with
    plain := styled.plain ++ fresh,
    spans :=
      if text = "" || style = "" then styled.spans
      else styled.spans ++ [⟨start, start + fresh.length, style⟩] }

def ofParts (parts : List (String × String)) : Styled :=
  parts.foldl (fun styled part => styled.append part.1 part.2) empty

end Styled

end CallAudit
