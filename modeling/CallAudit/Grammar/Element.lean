import CallAudit.Grammar.Access

/-!
# Markup elements

Elements, their attributes and what stands between their tags.  Text between
tags is taken as it is, so an element leaves its reader directly behind its
last character.
-/

namespace CallAudit.Grammar

open Reader

/-- A name in markup, which may hold hyphens. -/
def markupWord (kind : String) : Reader Node := do
  let start ← here
  match wordEnd? start with
  | none => stuck
  | some stop =>
      let behind :=
        if stop.char? == some '-' then
          stop.skipWhile fun c => isWordPart c || c == '-'
        else
          stop
      moveTo behind
      return start.nodeTo kind behind []

def elementName : Reader Node := do
  let start ← here
  let first ← markupWord "identifier"
  if ← optionalMark ":" then
    let second ← markupWord "identifier"
    close "jsx_namespace_name" start [first, second]
  else
    dottedFrom start first

def attributeName : Reader Node := do
  let start ← here
  let first ← markupWord "property_identifier"
  if ← optionalMark ":" then
    let second ← markupWord "identifier"
    close "jsx_namespace_name" start [first.withKind "identifier", second]
  else
    return first

def markupString : Reader Node := do
  let start ← here
  match start.char? with
  | none => stuck
  | some quote =>
      require (quote == '"' || quote == '\'')
      let inside := start.next
      let stop := inside.skipWhile (· != quote)
      require (!stop.atEnd)
      let pieces :=
        if stop.left < inside.left then
          [inside.nodeTo "string_fragment" stop []]
        else
          []
      moveTo stop.next
      return start.nodeTo "string" stop.next pieces

/-- An expression between braces; it may be empty. -/
def embedded (rules : Rules) : Reader Node := do
  let start ← here
  takeText "\x7b"
  let inner ← do
    if ← seesText "\x7d" then
      pure []
    else if ← seesMark "..." then
      let from_ ← here
      takeMark "..."
      let value ← rules (.expression .inside)
      pure [← close "spread_element" from_ [value]]
    else
      pure [← rules (.sequence .inside)]
  takeTextRaw "\x7d"
  close "jsx_expression" start inner

def attributeValue (rules : Rules) : Reader Node := do
  if ← seesText "\x7b" then
    let value ← embedded rules
    settle
    return value
  else if ← seesText "<" then
    let value ← rules .element
    settle
    return value
  else
    markupString

/-- An attribute: a name, perhaps with a value, or an expression. -/
def attribute_ (rules : Rules) : Reader Node := do
  let start ← here
  if ← seesText "\x7b" then
    let value ← embedded rules
    settle
    return value
  else
    let key ← attributeName
    if ← optionalMark "=" then
      let value ← attributeValue rules
      close "jsx_attribute" start [key, value]
    else
      close "jsx_attribute" start [key]

/-- A character reference: an ampersand, a name or number, and a semicolon. -/
def referenceEnd? (start : Cursor) : Option Cursor :=
  let body := start.next
  let stop :=
    if body.sees "#" then
      let number := body.next
      if number.sees "x" || number.sees "X" then
        number.next.skipWhile isHexDigit
      else
        number.skipWhile Char.isDigit
    else
      body.skipWhile Char.isAlpha
  if stop.sees ";" && stop.left < body.left then some stop.next else none

/-- Does text between tags count?  White space from a line break on does
not. -/
def countsAsText (text : List Char) : Bool :=
  go false text
where
  /-- `broken` says that only white space came since a line break. -/
  go : Bool → List Char → Bool
    | _, [] => false
    | broken, c :: rest =>
        if c == '\n' then go true rest
        else if broken && isGap c then go true rest
        else true

/-- Something between tags; nothing before a closing tag. -/
def elementChild (rules : Rules) : Reader (Option (List Node)) := do
  let start ← here
  match start.char? with
  | none => stuck
  | some c =>
      if start.sees "</" then
        return none
      else if c == '<' then
        return some [← rules .element]
      else if c == '\x7b' then
        return some [← embedded rules]
      else if c == '&' then
        match referenceEnd? start with
        | none => stuck
        | some stop =>
            moveRaw stop
            return some [← close "html_character_reference" start []]
      else if c == '>' || c == '\x7d' then
        stuck
      else
        let stop := start.skipWhile fun d =>
          !("<>\x7b\x7d&".toList.contains d)
        moveRaw stop
        if countsAsText (start.rest.take (start.left - stop.left)) then
          return some [← close "jsx_text" start []]
        else
          return some []

/-- What follows an opening tag: children and a closing tag. -/
def elementRest (rules : Rules) (start : Cursor) (opening : Node) :
    Reader Node := do
  let children ← collect (elementChild rules)
  let from_ ← here
  takeText "</"
  let named ←
    if ← seesText ">" then pure []
    else pure [(← elementName).withField "name"]
  takeTextRaw ">"
  let closing ← close "jsx_closing_element" from_ named
  close "jsx_element" start
    (opening.withField "open_tag" :: children.flatten ++
      [closing.withField "close_tag"])

def element (rules : Rules) : Reader Node := do
  let start ← here
  takeText "<"
  if ← seesText ">" then
    takeTextRaw ">"
    elementRest rules start (← close "jsx_opening_element" start [])
  else
    let named ← elementName
    let types ←
      if (← typed) && (← seesText "<") then
        pure [(← rules .typeArguments).withField "type_arguments"]
      else
        pure []
    let attributes ← collect do
      if (← seesText ">") || (← seesText "/") then
        return none
      else
        return some ((← attribute_ rules).withField "attribute")
    let parts := named.withField "name" :: types ++ attributes
    if ← seesText "/>" then
      takeTextRaw "/>"
      close "jsx_self_closing_element" start parts
    else
      takeTextRaw ">"
      elementRest rules start (← close "jsx_opening_element" start parts)

end CallAudit.Grammar
