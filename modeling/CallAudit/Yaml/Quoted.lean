import CallAudit.Yaml.Cursor
import CallAudit.Yaml.Fault

/-!
# Quoted texts

Between single quotes a quote is written twice and everything else stands for
itself; between double quotes there are escapes.  In both, a line end and the
blanks around it are folded.
-/

namespace CallAudit.Yaml

/-- The quotes around a text. -/
inductive Quote where
  | single
  | double
  deriving DecidableEq, Repr

def Quote.char : Quote → Char
  | .single => '\''
  | .double => '"'

def hexDigit? (c : Char) : Option Nat :=
  if '0' ≤ c && c ≤ '9' then some (c.toNat - 48)
  else if 'a' ≤ c && c ≤ 'f' then some (c.toNat - 87)
  else if 'A' ≤ c && c ≤ 'F' then some (c.toNat - 55)
  else none

/-- The number that a fixed count of hexadecimal digits spells. -/
def hexNumber? (count : Nat) (text : List Char) : Option Nat :=
  let digits := text.take count
  if digits.length < count then none
  else (digits.mapM hexDigit?).map fun values =>
    values.foldl (fun number digit => number * 16 + digit) 0

/-- What a backslash with one more character stands for. -/
def simpleEscape? : Char → Option Char
  | '0' => some (Char.ofNat 0)
  | 'a' => some (Char.ofNat 7)
  | 'b' => some (Char.ofNat 8)
  | 't' => some '\t'
  | '\t' => some '\t'
  | 'n' => some '\n'
  | 'v' => some (Char.ofNat 11)
  | 'f' => some (Char.ofNat 12)
  | 'r' => some '\r'
  | 'e' => some (Char.ofNat 27)
  | ' ' => some ' '
  | '"' => some '"'
  | '\\' => some '\\'
  | '/' => some '/'
  | 'N' => some (Char.ofNat 0x85)
  | '_' => some (Char.ofNat 0xa0)
  | 'L' => some (Char.ofNat 0x2028)
  | 'P' => some (Char.ofNat 0x2029)
  | _ => none

/-- The number of hexadecimal digits that a letter after a backslash asks
for. -/
def codeLength? : Char → Option Nat
  | 'x' => some 2
  | 'u' => some 4
  | 'U' => some 8
  | _ => none

/-- Read the empty lines after a line end inside quotes. -/
def quotedBreaks : Nat → Cursor → List Char → Except Fault (List Char × Cursor)
  | 0, _, _ => .error .malformed
  | bound + 1, cursor, breaks =>
      if atSeparator cursor.rest then
        .error .malformed
      else
        let cursor := cursor.skip isBlank
        match cursor.lineBreak? with
        | none => .ok (breaks, cursor)
        | some (mark, after) => quotedBreaks bound after (breaks ++ [mark])

def quotedGap (cursor : Cursor) : Except Fault (List Char × Cursor) :=
  let (blanks, after) := cursor.span isBlank
  match after.lineBreak? with
  | none =>
      if after.rest.isEmpty then .error .malformed else .ok (blanks, after)
  | some (mark, after) =>
      (quotedBreaks (after.rest.length + 1) after []).map fun found =>
        (foldBreaks mark found.1, found.2)

def charOfCode (code : Nat) : Except Fault Char :=
  if 0x10ffff < code then .error (.value (.noSuchCharacter code))
  else .ok (Char.ofNat code)

/-- Read an escape, after its backslash. -/
def readEscape (cursor : Cursor) : Except Fault (List Char × Cursor) :=
  match cursor.rest with
  | [] => .error .malformed
  | c :: rest =>
      match simpleEscape? c, codeLength? c, cursor.lineBreak? with
      | some meant, _, _ => .ok ([meant], cursor.next)
      | none, some count, _ =>
          match hexNumber? count rest with
          | none => .error .malformed
          | some code =>
              (charOfCode code).map fun meant =>
                ([meant], cursor.forward (count + 1))
      | none, none, some (_, after) =>
          quotedBreaks (after.rest.length + 1) after []
      | none, none, none => .error .malformed

def quotedPieces (quote : Quote) :
    Nat → Cursor → List Char → Except Fault (List Char × Cursor)
  | 0, _, _ => .error .malformed
  | bound + 1, cursor, text =>
      match cursor.rest with
      | [] => .error .malformed
      | c :: rest =>
          if c = quote.char then
            if quote = .single && rest.head? = some c then
              quotedPieces quote bound (cursor.forward 2) (text ++ [c])
            else
              .ok (text, cursor.next)
          else if quote = .double && c = '\\' then
            match readEscape cursor.next with
            | .error fault => .error fault
            | .ok (meant, after) =>
                quotedPieces quote bound after (text ++ meant)
          else if isBlank c || isBreak c then
            match quotedGap cursor with
            | .error fault => .error fault
            | .ok (gap, after) => quotedPieces quote bound after (text ++ gap)
          else
            quotedPieces quote bound cursor.next (text ++ [c])

def readQuoted (quote : Quote) (cursor : Cursor) :
    Except Fault (List Char × Cursor) :=
  quotedPieces quote (cursor.rest.length + 1) cursor.next []

end CallAudit.Yaml
