import CallAudit.Grammar.Dialect
import CallAudit.Grammar.Trivia

/-!
# Readers

A reader takes something from the front of a source and either succeeds or
gets stuck at a place.  Between tokens a reader stands behind the blanks and
comments, and remembers where the last token ended.
-/

namespace CallAudit.Grammar

/-- Where a reader stands: at the next token, with the end of the last token
and the comments met so far, the last one first. -/
structure State where
  dialect : Dialect
  here : Cursor
  back : Cursor
  comments : List Node

/-- A reader that succeeds with a value or gets stuck at a cursor. -/
abbrev Reader := StateT State (Except Cursor)

namespace Reader

/-- Get stuck at the next token. -/
def stuck {α : Type} : Reader α :=
  fun state => .error state.here

/-- Try one reader and, from the same place, another.  When both get stuck,
the place further on is the one to report. -/
def either {α : Type} (first second : Reader α) : Reader α :=
  fun state =>
    match first state with
    | .ok result => .ok result
    | .error place =>
        match second state with
        | .ok result => .ok result
        | .error other => .error (if other.left < place.left then other else place)

/-- Try a reader, and stay where it started when it gets stuck. -/
def attempt {α : Type} (reader : Reader α) : Reader (Option α) :=
  fun state =>
    match reader state with
    | .ok (value, next) => .ok (some value, next)
    | .error _ => .ok (none, state)

def require (condition : Bool) : Reader Unit :=
  if condition then pure () else stuck

def iterate {α : Type} (step : α → Reader (Option α)) : Nat → α → Reader α
  | 0, _ => stuck
  | fuel + 1, value => do
      match ← step value with
      | none => pure value
      | some next => iterate step fuel next

/-- The next token's cursor. -/
def here : Reader Cursor := do
  return (← get).here

/-- More rounds than any repetition that consumes something can take. -/
def rounds : Reader Nat := do
  return (← here).left + 2

def collect {α : Type} (item : Reader (Option α)) : Reader (List α) := do
  let found ← iterate
    (fun items : List α => do
      match ← item with
      | none => return none
      | some next => return some (next :: items))
    (← rounds) []
  return found.reverse

def typed : Reader Bool := do
  return (← get).dialect.typed

def markup : Reader Bool := do
  return (← get).dialect.markup

/-- Move behind a token that ends at a cursor, without looking further. -/
def moveRaw (stop : Cursor) : Reader Unit :=
  modify fun state => { state with here := stop, back := stop }

/-- Move behind a token that ends at a cursor, and on to the next token. -/
def moveTo (stop : Cursor) : Reader Unit :=
  modify fun state =>
    let (here, comments) := skipTrivia stop.left.succ stop state.comments
    { state with here := here, back := stop, comments := comments }

/-- Go from a place inside a token's surroundings on to the next token. -/
def settle : Reader Unit := do
  moveTo (← get).back

/-- Where an operand is due, a margin comment may stand instead of a blank. -/
def skipMargin : Reader Unit := do
  let state ← get
  let (here, comments) ← iterate
    (fun (found : Cursor × List Node) => do
      match marginCommentEnd? found.1 with
      | none => return none
      | some stop =>
          let comment := found.1.nodeTo "html_comment" stop []
          return some (skipTrivia stop.left.succ stop (comment :: found.2)))
    (state.here.left + 2) (state.here, state.comments)
  set { state with here := here, comments := comments }

/-- The node from a cursor to the end of the last token. -/
def close (kind : String) (start : Cursor) (children : List Node) :
    Reader Node := do
  return start.nodeTo kind (← get).back children

/-! ## Punctuation -/

/-- All punctuation of more than one character, longer ones first. -/
def longPunctuation : List (List Char) :=
  [">>>=", "...", "===", "!==", "**=", "<<=", ">>=", ">>>", "&&=", "||=",
    "??=", "=>", "==", "!=", "<=", ">=", "&&", "||", "??", "?.", "++", "--",
    "+=", "-=", "*=", "/=", "%=", "&=", "|=", "^=", "<<", ">>", "**"].map
    String.toList

/-- The punctuation at the front of a text: the longest that fits, or a
single character.  A question mark before a decimal fraction stands alone. -/
def punctuationOf (rest : List Char) : List Char :=
  match longPunctuation.find? fun mark => mark.isPrefixOf rest with
  | some ['?', '.'] =>
      if (rest[2]?).any Char.isDigit then ['?'] else ['?', '.']
  | some mark => mark
  | none => rest.take 1

def punctuation : Reader String := do
  return String.ofList (punctuationOf (← here).rest)

def seesMark (mark : String) : Reader Bool := do
  let rest := (← here).rest
  return mark.toList.isPrefixOf rest && punctuationOf rest == mark.toList

/-- Does a text follow, whatever token it may be part of? -/
def seesText (text : String) : Reader Bool := do
  return (← here).sees text

def takeText (text : String) : Reader Unit := do
  let start ← here
  if start.sees text then
    moveTo (start.forward text.length)
  else
    stuck

/-- Take a text off the front without looking further. -/
def takeTextRaw (text : String) : Reader Unit := do
  let start ← here
  if start.sees text then
    moveRaw (start.forward text.length)
  else
    stuck

def takeMark (mark : String) : Reader Unit := do
  if ← seesMark mark then takeText mark else stuck

def optionalMark (mark : String) : Reader Bool := do
  if ← seesMark mark then
    takeText mark
    return true
  else
    return false

/-- Take a given punctuation as a child in a given role. -/
def markIn (role mark : String) : Reader Node := do
  let start ← here
  takeMark mark
  return start.tokenTo role (start.forward mark.length)

/-! ## Semicolons -/

/-- Would a statement end here without a semicolon? -/
def endsHere (operand : Bool) : Reader Bool := do
  let state ← get
  return endsWithoutSemicolon state.dialect.typed operand state.back state.here

/-- The end of a statement: a semicolon, or a place where none is needed. -/
def semicolon (operand : Bool) : Reader Unit := do
  if (← here).sees ";" then
    takeText ";"
  else
    require (← endsHere operand)

end Reader

end CallAudit.Grammar
