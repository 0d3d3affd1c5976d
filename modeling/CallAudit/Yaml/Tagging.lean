import CallAudit.Yaml.Quoted
import CallAudit.Yaml.Token

/-!
# Directives, tags and anchors

The tokens that begin with a percent sign, an exclamation mark, an ampersand or
an asterisk.
-/

namespace CallAudit.Yaml

abbrev Read := Except Fault (Token × Cursor)

def isAddressChar (c : Char) : Bool :=
  c.isAlphanum ||
    ("-;/?:@&=+$,_.!~*'()[]%".toList).contains c

/-- Read a run of percent escapes as the bytes that they spell. -/
def escapedBytes : Nat → Cursor → ByteArray → Except Fault (ByteArray × Cursor)
  | 0, _, _ => .error .malformed
  | bound + 1, cursor, bytes =>
      match cursor.rest with
      | '%' :: rest =>
          match hexNumber? 2 rest with
          | none => .error .malformed
          | some byte =>
              escapedBytes bound (cursor.forward 3) (bytes.push byte.toUInt8)
      | _ => .ok (bytes, cursor)

def addressPieces : Nat → Cursor → List Char → Except Fault (List Char × Cursor)
  | 0, _, _ => .error .malformed
  | bound + 1, cursor, text =>
      match cursor.rest with
      | [] => .ok (text, cursor)
      | c :: _ =>
          if c = '%' then
            match escapedBytes (cursor.rest.length + 1) cursor ByteArray.empty with
            | .error fault => .error fault
            | .ok (bytes, after) =>
                match String.fromUTF8? bytes with
                | none => .error .malformed
                | some meant => addressPieces bound after (text ++ meant.toList)
          else if isAddressChar c then
            addressPieces bound cursor.next (text ++ [c])
          else
            .ok (text, cursor)

def readAddress (cursor : Cursor) : Except Fault (String × Cursor) := do
  let (text, after) ← addressPieces (cursor.rest.length + 1) cursor []
  if after.index = cursor.index then
    throw .malformed
  pure (String.ofList text, after)

/-- Read the handle of a tag: a name between exclamation marks, or one such
mark in front of a space. -/
def readHandle (cursor : Cursor) : Except Fault (String × Cursor) :=
  match cursor.rest with
  | '!' :: rest =>
      if rest.head? = some ' ' then
        .ok ("!", cursor.next)
      else
        let (name, after) := cursor.next.span isNameChar
        if after.peek? = some '!' then
          .ok ("!" ++ String.ofList name ++ "!", after.next)
        else
          .error .malformed
  | _ => .error .malformed

def readTag (cursor : Cursor) : Read := do
  let rest := cursor.rest.drop 1
  let (token, after) ←
    if rest.head? = some '<' then do
      let (address, after) ← readAddress (cursor.forward 2)
      if after.peek? ≠ some '>' then
        throw .malformed
      pure (Token.tag none address, after.next)
    else if atWordEnd rest then
      pure (Token.tag none "!", cursor.next)
    else do
      let word := rest.takeWhile fun c => !(c = ' ' || isBreak c)
      let (handle, after) ←
        if word.contains '!' then readHandle cursor
        else pure ("!", cursor.next)
      let (suffix, after) ← readAddress after
      pure (Token.tag (some handle) suffix, after)
  if !atFieldEnd after.rest then
    throw .malformed
  pure (token, after)

def readName (make : String → Token) (cursor : Cursor) : Read :=
  let (name, after) := cursor.next.span isNameChar
  let ended := atWordEnd after.rest ||
    after.peek?.any ['?', ':', ',', ']', '\x7d', '%', '@', '\x60'].contains
  if name.isEmpty || !ended then .error .malformed
  else .ok (make (String.ofList name), after)

def decimalNumber (digits : List Char) : Nat :=
  digits.foldl (fun number c => number * 10 + (c.toNat - 48)) 0

def readNumber (cursor : Cursor) : Except Fault (Nat × Cursor) :=
  let (digits, after) := cursor.span Char.isDigit
  if digits.isEmpty then .error .malformed
  else .ok (decimalNumber digits, after)

def readVersion (cursor : Cursor) : Read := do
  let (major, after) ← readNumber (cursor.skip (· = ' '))
  if after.peek? ≠ some '.' then
    throw .malformed
  let (_, after) ← readNumber after.next
  if !atFieldEnd after.rest then
    throw .malformed
  pure (.version major, after)

def readShorthand (cursor : Cursor) : Read := do
  let (handle, after) ← readHandle (cursor.skip (· = ' '))
  if after.peek? ≠ some ' ' then
    throw .malformed
  let (stem, after) ← readAddress (after.skip (· = ' '))
  if !atFieldEnd after.rest then
    throw .malformed
  pure (.tagShorthand handle stem, after)

def readDirective (cursor : Cursor) : Read := do
  let (name, after) := cursor.next.span isNameChar
  if name.isEmpty || !atFieldEnd after.rest then
    throw .malformed
  let (token, after) ←
    match String.ofList name with
    | "YAML" => readVersion after
    | "TAG" => readShorthand after
    | _ => pure (Token.otherDirective, after.skip fun c => !isBreak c)
  let after := after.skipComment
  if !atLineEnd after.rest then
    throw .malformed
  pure (token, after.skipBreak)

end CallAudit.Yaml
