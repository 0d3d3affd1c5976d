import CallAudit.Files.Disk

/-!
# Reading files

The text of a file.  Bytes that are not well-formed UTF-8 are taken as one
character each, and every line end becomes a line feed.
-/

namespace CallAudit

namespace Files

/-- Make every line end a line feed. -/
def unifyLines : List Char → List Char
  | '\r' :: '\n' :: rest => '\n' :: unifyLines rest
  | '\r' :: rest => '\n' :: unifyLines rest
  | c :: rest => c :: unifyLines rest
  | [] => []

def byteChars (bytes : ByteArray) : List Char :=
  bytes.toList.map fun byte => Char.ofNat byte.toNat

def decode (bytes : ByteArray) : List Char :=
  match String.fromUTF8? bytes with
  | some text => text.toList
  | none => byteChars bytes

def textOf (bytes : ByteArray) : String :=
  String.ofList (unifyLines (decode bytes))

/-- The text of a content that has to be well-formed UTF-8. -/
def strictTextOf? (bytes : ByteArray) : Option String :=
  (String.fromUTF8? bytes).map fun text =>
    String.ofList (unifyLines text.toList)

end Files

def Disk.text? (disk : Disk) (path : String) : Option String :=
  (disk.content? path).map Files.textOf

end CallAudit
