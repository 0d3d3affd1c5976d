import CallAudit.Grammar.Word

/-!
# Literals

Numbers, quoted strings and regular expressions.
-/

namespace CallAudit.Grammar

/-! ## Numbers -/

/-- The cursor behind digits of a class, which single low lines may
separate. -/
def digitsEnd? (isDigit : Char → Bool) (cursor : Cursor) : Option Cursor :=
  if (cursor.char?).any isDigit then
    some (go cursor.rest cursor)
  else
    none
where
  /-- Walk along digits and separators. -/
  go : List Char → Cursor → Cursor
    | [], here => here
    | c :: rest, here =>
        if isDigit c || (c == '_' && (rest.head?).any isDigit) then
          go rest (here.past c rest)
        else
          here

/-- The cursor behind an exponent, or the same cursor when there is none. -/
def exponentEnd (cursor : Cursor) : Cursor :=
  if (cursor.char?).any fun c => c == 'e' || c == 'E' then
    let signed := cursor.next
    let digits :=
      if (signed.char?).any fun c => c == '+' || c == '-' then signed.next
      else signed
    (digitsEnd? Char.isDigit digits).getD cursor
  else
    cursor

/-- The cursor behind the digits of a number in a base that a letter after
zero announces. -/
def basedEnd? (letters : List Char) (isDigit : Char → Bool)
    (cursor : Cursor) : Option Cursor :=
  match cursor.rest with
  | '0' :: letter :: _ =>
      if letters.contains letter then
        digitsEnd? isDigit (cursor.forward 2)
      else
        none
  | _ => none

/-- The cursor behind the mark of a whole number of any size. -/
def bigMarkEnd (cursor : Cursor) : Cursor :=
  if cursor.char? == some 'n' then cursor.next else cursor

def numberEnd? (cursor : Cursor) : Option Cursor :=
  match (basedEnd? ['x', 'X'] isHexDigit cursor).or
      ((basedEnd? ['b', 'B'] (fun c => c == '0' || c == '1') cursor).or
        (basedEnd? ['o', 'O'] (fun c => '0' ≤ c && c ≤ '7') cursor)) with
  | some stop => some (bigMarkEnd stop)
  | none =>
      match digitsEnd? Char.isDigit cursor with
      | some whole =>
          if whole.char? == some 'n' then
            some whole.next
          else if whole.char? == some '.' then
            let point := whole.next
            some (exponentEnd ((digitsEnd? Char.isDigit point).getD point))
          else
            some (exponentEnd whole)
      | none =>
          if cursor.char? == some '.' then
            (digitsEnd? Char.isDigit cursor.next).map exponentEnd
          else
            none

/-! ## Strings -/

def escapeLength? (rest : List Char) : Option Nat :=
  match rest with
  | '\\' :: 'x' :: tail =>
      if (tail.take 2).length == 2 && (tail.take 2).all isHexDigit then
        some 4
      else
        none
  | '\\' :: 'u' :: _ => wordEscapeLength? rest
  | '\\' :: '\r' :: tail =>
      if tail.head?.any fun c =>
          c == '\n' || c.toNat == 0x2028 || c.toNat == 0x2029 then
        some 3
      else
        some 2
  | '\\' :: c :: tail =>
      if '0' ≤ c && c ≤ '7' then
        some (2 + ((tail.take 2).takeWhile fun d => '0' ≤ d && d ≤ '7').length)
      else
        some 2
  | _ => none

/-- Read the inside of a string up to its closing quotation mark: the pieces
that stand for themselves and the escapes. -/
def stringPieces? (quote : Char) :
    Nat → Cursor → List Node → Option (Cursor × List Node)
  | 0, _, _ => none
  | fuel + 1, cursor, pieces =>
      match cursor.char? with
      | none => none
      | some c =>
          if c == quote then
            some (cursor.next, pieces.reverse)
          else if c == '\\' then
            match escapeLength? cursor.rest with
            | none => none
            | some length =>
                let stop := cursor.forward length
                stringPieces? quote fuel stop
                  (cursor.nodeTo "escape_sequence" stop [] :: pieces)
          else if c == '\n' || c == '\r' then
            none
          else
            let stop := cursor.skipWhile fun d =>
              d != quote && d != '\\' && d != '\n' && d != '\r'
            stringPieces? quote fuel stop
              (cursor.nodeTo "string_fragment" stop [] :: pieces)

/-! ## Regular expressions -/

/-- The cursor behind the body of a regular expression: at the slash that
closes it.  `inSet` says whether a set of characters is open. -/
def patternEnd? : Nat → Bool → Cursor → Option Cursor
  | 0, _, _ => none
  | fuel + 1, inSet, cursor =>
      match cursor.rest with
      | [] => none
      | '\n' :: _ => none
      | '\\' :: '\n' :: _ => none
      | '\\' :: _ :: _ => patternEnd? fuel inSet (cursor.forward 2)
      | c :: _ =>
          if c == '/' && !inSet then
            some cursor
          else if c == '[' then
            patternEnd? fuel true cursor.next
          else if c == ']' then
            patternEnd? fuel false cursor.next
          else
            patternEnd? fuel inSet cursor.next

namespace Reader

def number : Reader Node := do
  let start ← here
  match numberEnd? start with
  | none => stuck
  | some stop =>
      moveTo stop
      return start.nodeTo "number" stop []

/-- Read a string between quotation marks of either sort. -/
def string : Reader Node := do
  let start ← here
  match start.char? with
  | some quote =>
      if quote == '"' || quote == '\'' then
        match stringPieces? quote start.left.succ start.next [] with
        | none => stuck
        | some (stop, pieces) =>
            moveTo stop
            return start.nodeTo "string" stop pieces
      else
        stuck
  | none => stuck

def regex : Reader Node := do
  let start ← here
  require (start.sees "/")
  let body := start.next
  match patternEnd? body.left.succ false body with
  | none => stuck
  | some stop =>
      require (stop.left < body.left)
      let behind := stop.next
      let flagsEnd := behind.skipWhile fun c => 'a' ≤ c && c ≤ 'z'
      let pattern := (body.nodeTo "regex_pattern" stop []).withField "pattern"
      let flags :=
        if flagsEnd.left < behind.left then
          [(behind.nodeTo "regex_flags" flagsEnd []).withField "flags"]
        else
          []
      moveTo flagsEnd
      return start.nodeTo "regex" flagsEnd (pattern :: flags)

end Reader

end CallAudit.Grammar
