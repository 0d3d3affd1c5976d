import CallAudit.Number.Shortest
import CallAudit.Text.Quoted
import CallAudit.Text.Split
import CallAudit.Yaml.Fault
import CallAudit.Yaml.Value

/-!
# Values as text

Settings that are texts can be given as values of any kind, which then stand
for their text.  A text stands for itself; inside a collection it is quoted.  A
value has no text when a whole number in it has too many digits.
-/

namespace CallAudit.Yaml

def shownByte (quote : Char) (byte : UInt8) : String :=
  let c := Char.ofNat byte.toNat
  if c = quote || c = '\\' then String.ofList ['\\', c]
  else if c = '\t' then "\\t"
  else if c = '\n' then "\\n"
  else if c = '\r' then "\\r"
  else if 0x20 ≤ byte.toNat && byte.toNat < 0x7f then String.singleton c
  else "\\x" ++ Text.hexPadded 2 byte.toNat

def shownBytes (content : List UInt8) : String :=
  let quote := Text.quoteFor (content.map fun byte => Char.ofNat byte.toNat)
  "b" ++ String.singleton quote ++
    String.join (content.map (shownByte quote)) ++ String.singleton quote

/-- A distance from universal time, as sign, hours and minutes. -/
def offsetText (minutes : Int) : String :=
  (if minutes < 0 then "-" else "+") ++
    Moment.padded 2 (minutes.natAbs / 60) ++ ":" ++
    Moment.padded 2 (minutes.natAbs % 60)

/-- A span of time given in minutes, as days and seconds that are not
negative. -/
def shownSpan (minutes : Int) : String :=
  let days := minutes.fdiv 1440
  let seconds := minutes.fmod 1440 * 60
  let parts :=
    (if days = 0 then [] else ["days=" ++ toString days]) ++
      (if seconds = 0 then [] else ["seconds=" ++ toString seconds])
  "datetime.timedelta(" ++ Text.joinWith ", " parts ++ ")"

def shownOffset (minutes : Int) : String :=
  if minutes = 0 then "datetime.timezone.utc"
  else "datetime.timezone(" ++ shownSpan minutes ++ ")"

/-- A moment inside a collection.  Seconds and microseconds are left out when
there is nothing in them. -/
def shownMoment (point : Moment) (offset : Option Int) : String :=
  let fields := [point.year, point.month, point.day, point.hour, point.minute]
  let fine :=
    if point.micro ≠ 0 then [point.second, point.micro]
    else if point.second ≠ 0 then [point.second]
    else []
  let zone :=
    match offset with
    | none => []
    | some minutes => ["tzinfo=" ++ shownOffset minutes]
  "datetime.datetime(" ++
    Text.joinWith ", " ((fields ++ fine).map toString ++ zone) ++ ")"

def shownDate (day : Moment) : String :=
  "datetime.date(" ++
    Text.joinWith ", " ([day.year, day.month, day.day].map toString) ++ ")"

/-- The text of a whole number, unless it is too long. -/
def wholeText (number : Int) : Except ValueFault String :=
  if Nat.pow 10 longestNumber ≤ number.natAbs then .error .tooManyDigits
  else .ok (toString number)

mutual

def Value.shown : Value → Except ValueFault String
  | .null => .ok "None"
  | .switch on => .ok (if on then "True" else "False")
  | .whole number => wholeText number
  | .real number => .ok number.text
  | .text content => .ok (Text.quoted content)
  | .bytes content => .ok (shownBytes content)
  | .date day => .ok (shownDate day)
  | .moment point offset => .ok (shownMoment point offset)
  | .list items =>
      (shownItems items).map fun parts =>
        "[" ++ Text.joinWith ", " parts ++ "]"
  | .pairs items =>
      (shownPairs items).map fun parts =>
        "[" ++ Text.joinWith ", " parts ++ "]"
  | .set items =>
      (shownItems items).map fun parts =>
        if parts.isEmpty then "set()"
        else "\x7b" ++ Text.joinWith ", " parts ++ "\x7d"
  | .mapping entries =>
      (shownEntries entries).map fun parts =>
        "\x7b" ++ Text.joinWith ", " parts ++ "\x7d"
  | .itself isMapping =>
      .ok (if isMapping then "\x7b...\x7d" else "[...]")

def shownItems : List Value → Except ValueFault (List String)
  | [] => .ok []
  | item :: rest => do
      let text ← item.shown
      let others ← shownItems rest
      return text :: others

def shownPairs : List (Value × Value) → Except ValueFault (List String)
  | [] => .ok []
  | (left, right) :: rest => do
      let leftText ← left.shown
      let rightText ← right.shown
      let others ← shownPairs rest
      return ("(" ++ leftText ++ ", " ++ rightText ++ ")") :: others

def shownEntries : List (Value × Value) → Except ValueFault (List String)
  | [] => .ok []
  | (key, value) :: rest => do
      let keyText ← key.shown
      let valueText ← value.shown
      let others ← shownEntries rest
      return (keyText ++ ": " ++ valueText) :: others

end

def Value.asText : Value → Except ValueFault String
  | .text content => .ok content
  | .date day => .ok day.dateText
  | .moment point offset =>
      .ok (point.exactText " " ++ (offset.map offsetText).getD "")
  | value => value.shown

end CallAudit.Yaml
