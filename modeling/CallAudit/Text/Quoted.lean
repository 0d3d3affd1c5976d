import CallAudit.Text.Hex
import CallAudit.Text.Printable

/-!
# Quoted texts

A text between quotes, with everything that would not be seen written as an
escape.  Single quotes are used unless the text has single quotes and no double
ones.
-/

namespace CallAudit.Text

def quoteFor (text : List Char) : Char :=
  if text.contains '\'' && !text.contains '"' then '"' else '\''

/-- The numeric escape of a character, as short as its code point allows. -/
def numericEscape (c : Char) : String :=
  let n := c.toNat
  if n < 0x100 then "\\x" ++ hexPadded 2 n
  else if n < 0x10000 then "\\u" ++ hexPadded 4 n
  else "\\U" ++ hexPadded 8 n

def quotedChar (quote c : Char) : String :=
  if c = quote || c = '\\' then String.ofList ['\\', c]
  else if c = '\t' then "\\t"
  else if c = '\n' then "\\n"
  else if c = '\r' then "\\r"
  else if isPrintable c then String.singleton c
  else numericEscape c

def quoted (text : String) : String :=
  let chars := text.toList
  let quote := quoteFor chars
  String.singleton quote ++ String.join (chars.map (quotedChar quote)) ++
    String.singleton quote

end CallAudit.Text
