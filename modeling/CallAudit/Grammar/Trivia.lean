import CallAudit.Grammar.Cursor

/-!
# Blanks, comments and line ends

What may stand between two tokens, and when a line end stands for a semicolon.
-/

namespace CallAudit.Grammar

/-- The characters that separate tokens and mean nothing else. -/
def isGap (c : Char) : Bool :=
  let n := c.toNat
  (0x09 ≤ n && n ≤ 0x0d) || n == 0x20 || n == 0x85 || n == 0xa0 ||
    n == 0x1680 || (0x2000 ≤ n && n ≤ 0x200b) || n == 0x2028 ||
    n == 0x2029 || n == 0x202f || n == 0x205f || n == 0x2060 ||
    n == 0x3000 || n == 0xfeff

def isLineEnd (c : Char) : Bool :=
  c == '\n' || c == '\r' || c.toNat == 0x2028 || c.toNat == 0x2029

/-- The cursor behind the mark that closes a block comment, when there is
one. -/
def blockCommentEnd? : List Char → Cursor → Option Cursor
  | [], _ => none
  | [_], _ => none
  | c :: d :: rest, here =>
      if c == '*' && d == '/' then
        some ((here.past c (d :: rest)).past d rest)
      else
        blockCommentEnd? (d :: rest) (here.past c (d :: rest))

def commentEnd? (cursor : Cursor) : Option Cursor :=
  if cursor.sees "//" then
    some (cursor.skipWhile fun c => !isLineEnd c)
  else if cursor.sees "/*" then
    let inside := cursor.forward 2
    blockCommentEnd? inside.rest inside
  else
    none

def marginCommentEnd? (cursor : Cursor) : Option Cursor :=
  if cursor.sees "<!--" || cursor.sees "-->" then
    some (cursor.skipWhile fun c =>
      c != '\n' && c.toNat != 0x2028 && c.toNat != 0x2029)
  else
    none

/-- Skip blanks and comments; the comments are put in front of the ones
known before, the last one first. -/
def skipTrivia : Nat → Cursor → List Node → Cursor × List Node
  | 0, cursor, comments => (cursor, comments)
  | fuel + 1, cursor, comments =>
      let start := cursor.skipWhile isGap
      match commentEnd? start with
      | none => (start, comments)
      | some stop =>
          skipTrivia fuel stop (start.nodeTo "comment" stop [] :: comments)

/-! ## Line ends that stand for semicolons -/

/-- Is there a line break between tokens here?  A break inside a block
comment counts only on request. -/
def breaksLine (inComments : Bool) : Nat → Cursor → Bool
  | 0, _ => false
  | fuel + 1, cursor =>
      let stop := cursor.skipWhile isGap
      let isBreak := fun c : Char =>
        c == '\n' || c.toNat == 0x2028 || c.toNat == 0x2029
      if (cursor.rest.take (cursor.left - stop.left)).any isBreak then
        true
      else
        match commentEnd? stop with
        | none => false
        | some behind =>
            (inComments && stop.sees "/*" &&
              (stop.rest.take (stop.left - behind.left)).any isBreak) ||
              breaksLine inComments fuel behind

/-- Does a word follow that is `in` or `instanceof`? -/
def seesRelationWord (rest : List Char) : Bool :=
  let ends := fun tail : List Char =>
    match tail with
    | c :: _ => !c.isAlpha
    | [] => true
  match rest with
  | 'i' :: 'n' :: tail =>
      ends tail ||
        ("stanceof".toList.isPrefixOf tail && ends (tail.drop 8))
  | _ => false

/-- Do the characters after a line break carry on the expression before it?
`typed` says which dialect is read, `operand` whether an operand has just been
read. -/
def carriesOn (typed operand : Bool) (rest : List Char) : Bool :=
  match rest with
  | c :: tail =>
      if "`,:;*%><=?^|&/".toList.contains c then true
      else if c == '(' || c == '[' then !typed || operand
      else if c == '.' then
        typed || !(tail.head?.any Char.isDigit)
      else if c == '+' then tail.head? != some '+'
      else if c == '-' then tail.head? != some '-'
      else if c == '!' then tail.head? == some '='
      else seesRelationWord rest
  | [] => false

/-- Does a statement end between two tokens although no semicolon is written?
It does at the end of the source, before a closing brace, and at a line break
after which nothing carries on the expression. -/
def endsWithoutSemicolon
    (typed operand : Bool) (back here : Cursor) : Bool :=
  match here.rest with
  | [] => true
  | '\x7d' :: _ => true
  | rest =>
      breaksLine (!typed && !operand) back.left back &&
        !carriesOn typed operand rest

end CallAudit.Grammar
