import CallAudit.Grammar.Reader

/-!
# Words

Names and keywords.  A name is made of all characters that are not blanks,
controls or punctuation, does not start with a digit, and may hold escapes.
-/

namespace CallAudit.Grammar

def isWordPart (c : Char) : Bool :=
  c.toNat > 0x1f && !isGap c &&
    !":;`\"'@#.,|^&<=>+-*/\\%?!~()[]\x7b\x7d".toList.contains c

def isWordStart (c : Char) : Bool :=
  isWordPart c && !c.isDigit

def isHexDigit (c : Char) : Bool :=
  c.isDigit || ('a' ≤ c && c ≤ 'f') || ('A' ≤ c && c ≤ 'F')

def wordEscapeLength? (rest : List Char) : Option Nat :=
  match rest with
  | '\\' :: 'u' :: '\x7b' :: tail =>
      let digits := tail.takeWhile isHexDigit
      if !digits.isEmpty && (tail[digits.length]? == some '\x7d') then
        some (digits.length + 4)
      else
        none
  | '\\' :: 'u' :: tail =>
      if (tail.take 4).length == 4 && (tail.take 4).all isHexDigit then
        some 6
      else
        none
  | _ => none

/-- The cursor behind the characters and escapes that carry on a name. -/
def wordEnd : Nat → Cursor → Cursor
  | 0, cursor => cursor
  | fuel + 1, cursor =>
      let stop := cursor.skipWhile isWordPart
      match wordEscapeLength? stop.rest with
      | some length => wordEnd fuel (stop.forward length)
      | none => stop

def wordEnd? (cursor : Cursor) : Option Cursor :=
  match cursor.rest with
  | [] => none
  | c :: _ =>
      if isWordStart c || (wordEscapeLength? cursor.rest).isSome then
        some (wordEnd cursor.left cursor)
      else
        none

def wordAt? (cursor : Cursor) : Option String :=
  (wordEnd? cursor).map cursor.textTo

def reservedWords : List String :=
  ["break", "case", "catch", "class", "const", "continue", "debugger",
    "default", "delete", "do", "else", "extends", "false", "finally",
    "for", "function", "if", "import", "in", "instanceof", "new", "null",
    "return", "super", "switch", "this", "throw", "true", "try", "typeof",
    "var", "void", "while", "with"]

namespace Reader

def word? : Reader (Option String) := do
  return wordAt? (← here)

def seesWord (word : String) : Reader Bool := do
  return (← word?) == some word

def seesWordOf (words : List String) : Reader Bool := do
  return (← word?).any words.contains

/-- The cursor of the token after the next one, when the next one is a
word. -/
def afterWord? : Reader (Option Cursor) := do
  match wordEnd? (← here) with
  | none => return none
  | some stop => return some (skipTrivia stop.left.succ stop []).1

def secondWord? : Reader (Option String) := do
  return (← afterWord?).bind wordAt?

/-- The punctuation after the next word; empty when the next token is not a
word. -/
def markAfterWord : Reader String := do
  match ← afterWord? with
  | none => return ""
  | some cursor => return String.ofList (punctuationOf cursor.rest)

def anyWord (kind : String) : Reader Node := do
  let start ← here
  match wordEnd? start with
  | none => stuck
  | some stop =>
      moveTo stop
      return start.nodeTo kind stop []

def takeWord (word : String) : Reader Unit := do
  let start ← here
  match wordEnd? start with
  | none => stuck
  | some stop => if start.textTo stop == word then moveTo stop else stuck

def optionalWord (word : String) : Reader Bool := do
  if ← seesWord word then
    takeWord word
    return true
  else
    return false

def wordNode (word : String) : Reader Node := do
  let start ← here
  takeWord word
  close word start []

def wordIn (role word : String) : Reader Node := do
  let start ← here
  takeWord word
  return start.tokenTo role (start.forward word.length)

def name (kind : String) : Reader Node := do
  match ← word? with
  | none => stuck
  | some word =>
      if reservedWords.contains word then stuck else anyWord kind

end Reader

end CallAudit.Grammar
