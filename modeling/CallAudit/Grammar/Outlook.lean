import CallAudit.Grammar.Word

/-!
# Looking past a bracket

What an opening bracket starts often shows only behind the bracket that closes
it.  Looking ahead for that bracket is cheap as long as strings, templates and
comments are all that can hide brackets; a slash or an angle bracket, which may
start a pattern or markup, makes the outlook unclear.
-/

namespace CallAudit.Grammar

/-- What lies behind the closing bracket. -/
inductive Outlook where
  /-- The bracket closes after so many characters. -/
  | closes (length : Nat)
  /-- The bracket is never closed. -/
  | unclosed
  /-- Only reading on will tell. -/
  | unclear
  deriving DecidableEq, Repr

/-- What the characters being passed belong to. -/
inductive Enclosure where
  /-- A bracket that a character closes. -/
  | bracket (closing : Char)
  /-- A string that a quotation mark closes. -/
  | quote (mark : Char)
  /-- A template. -/
  | template
  /-- A comment up to the end of its line. -/
  | line
  /-- A comment between marks. -/
  | block
  deriving DecidableEq, Repr

/-- The enclosure that a character opens, outside strings and comments. -/
def opens? (c : Char) : Option Enclosure :=
  if c == '(' then some (.bracket ')')
  else if c == '[' then some (.bracket ']')
  else if c == '\x7b' then some (.bracket '\x7d')
  else if c == '"' || c == '\'' then some (.quote c)
  else if c == '\x60' then some .template
  else none

/-- Look for the character that closes the outermost of some enclosures. -/
def lookPast : Nat → Nat → List Enclosure → List Char → Outlook
  | 0, _, _, _ => .unclear
  | _ + 1, passed, [], _ => .closes passed
  | _ + 1, _, .quote _ :: _, [] => .unclear
  | _ + 1, _, _ :: _, [] => .unclosed
  | fuel + 1, passed, .quote mark :: outer, c :: rest =>
      if c == '\\' then
        lookPast fuel (passed + 2) (.quote mark :: outer) (rest.drop 1)
      else if c == '\n' then .unclear
      else if c == mark then lookPast fuel (passed + 1) outer rest
      else lookPast fuel (passed + 1) (.quote mark :: outer) rest
  | fuel + 1, passed, .template :: outer, c :: rest =>
      if c == '\\' then
        lookPast fuel (passed + 2) (.template :: outer) (rest.drop 1)
      else if c == '\x60' then lookPast fuel (passed + 1) outer rest
      else if c == '$' && rest.head? == some '\x7b' then
        lookPast fuel (passed + 2) (.bracket '\x7d' :: .template :: outer)
          (rest.drop 1)
      else lookPast fuel (passed + 1) (.template :: outer) rest
  | fuel + 1, passed, .line :: outer, c :: rest =>
      lookPast fuel (passed + 1)
        (if isLineEnd c then outer else .line :: outer) rest
  | fuel + 1, passed, .block :: outer, c :: rest =>
      if c == '*' && rest.head? == some '/' then
        lookPast fuel (passed + 2) outer (rest.drop 1)
      else
        lookPast fuel (passed + 1) (.block :: outer) rest
  | fuel + 1, passed, .bracket closing :: outer, c :: rest =>
      if c == closing then lookPast fuel (passed + 1) outer rest
      else if c == '/' && rest.head? == some '/' then
        lookPast fuel (passed + 2) (.line :: .bracket closing :: outer)
          (rest.drop 1)
      else if c == '/' && rest.head? == some '*' then
        lookPast fuel (passed + 2) (.block :: .bracket closing :: outer)
          (rest.drop 1)
      else if c == '/' || c == '<' then .unclear
      else if c == ')' || c == ']' || c == '\x7d' then .unclosed
      else
        match opens? c with
        | some inner =>
            lookPast fuel (passed + 1) (inner :: .bracket closing :: outer) rest
        | none => lookPast fuel (passed + 1) (.bracket closing :: outer) rest

/-- What lies behind the bracket that starts at a cursor. -/
def outlookAt (cursor : Cursor) : Outlook :=
  match cursor.rest with
  | c :: rest =>
      match opens? c with
      | some enclosure => lookPast (cursor.left + 2) 1 [enclosure] rest
      | none => .unclear
  | [] => .unclear

namespace Reader

/-- May the bracket at the next token be followed by a token that passes a
test?  An unclear outlook allows it. -/
def bracketMayPrecede (test : Cursor → Bool) : Reader Bool := do
  let start ← here
  match outlookAt start with
  | .unclosed => return false
  | .unclear => return true
  | .closes length =>
      let stop := start.forward length
      return test (skipTrivia stop.left.succ stop []).1

end Reader

end CallAudit.Grammar
