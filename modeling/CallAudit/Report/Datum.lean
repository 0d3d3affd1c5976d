import CallAudit.Text.Hex
import CallAudit.Text.Split

/-!
# Data records

Structured data and its text in JSON: one member a line, two blanks of
indentation a level, and nothing but ASCII in strings.
-/

namespace CallAudit

/-- A piece of structured data. -/
inductive Datum where
  | text (value : String)
  | number (value : Int)
  | switch (value : Bool)
  | list (items : List Datum)
  | record (members : List (String × Datum))

namespace Datum

instance : Inhabited Datum :=
  ⟨.list []⟩

def unitEscape (unit : Nat) : String :=
  "\\u" ++ Text.hexPadded 4 unit

/-- The numeric escape of a character; one above the sixteen-bit range is
written as two units. -/
def numericEscape (c : Char) : String :=
  let n := c.toNat
  if n < 0x10000 then
    unitEscape n
  else
    let above := n - 0x10000
    unitEscape (0xd800 + above / 0x400) ++ unitEscape (0xdc00 + above % 0x400)

def charText (c : Char) : String :=
  if c = '"' then "\\\""
  else if c = '\\' then "\\\\"
  else if c = '\n' then "\\n"
  else if c = '\r' then "\\r"
  else if c = '\t' then "\\t"
  else if c.toNat = 8 then "\\b"
  else if c.toNat = 12 then "\\f"
  else if 0x20 ≤ c.toNat && c.toNat < 0x7f then String.singleton c
  else numericEscape c

def stringText (text : String) : String :=
  "\"" ++ String.join (text.toList.map charText) ++ "\""

def newLine (depth : Nat) : String :=
  "\n" ++ String.ofList (List.replicate (2 * depth) ' ')

/-- Members between brackets, each on a line of its own; brackets without
members stand next to each other. -/
def bracketed (opening closing : String) (depth : Nat) (members : List String) :
    String :=
  if members.isEmpty then
    opening ++ closing
  else
    opening ++ newLine (depth + 1) ++
      Text.joinWith ("," ++ newLine (depth + 1)) members ++
      newLine depth ++ closing

mutual

/-- The text of a piece of data at a level of indentation. -/
def render (depth : Nat) : Datum → String
  | .text value => stringText value
  | .number value => toString value
  | .switch value => if value then "true" else "false"
  | .list items => bracketed "[" "]" depth (renderItems (depth + 1) items)
  | .record members =>
      bracketed "\x7b" "\x7d" depth (renderMembers (depth + 1) members)

def renderItems (depth : Nat) : List Datum → List String
  | [] => []
  | item :: rest => render depth item :: renderItems depth rest

def renderMembers (depth : Nat) : List (String × Datum) → List String
  | [] => []
  | (name, value) :: rest =>
      (stringText name ++ ": " ++ render depth value) ::
        renderMembers depth rest

end

def toText (datum : Datum) : String :=
  render 0 datum

end Datum

end CallAudit
