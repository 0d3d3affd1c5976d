import CallAudit.Time.Moment
import CallAudit.Yaml.Tagging

/-!
# Points in time

A date, or a date with a time of day and perhaps a distance from universal
time, as they are spelt in a settings file.
-/

namespace CallAudit.Yaml

/-- A point in time as it is spelt. -/
structure Timestamp where
  moment : Moment
  /-- Is there a time of day? -/
  timed : Bool := false
  /-- The distance from universal time in minutes. -/
  offset : Option Int := none
  deriving DecidableEq, Repr

namespace Timestamp

/-- Read a number of `least` to `most` digits. -/
def digits (least most : Nat) (text : List Char) : Option (Nat × List Char) :=
  let run := (text.take most).takeWhile Char.isDigit
  if run.length < least then none
  else some (decimalNumber run, text.drop run.length)

def mark (expected : Char) : List Char → Option (List Char)
  | c :: rest => if c = expected then some rest else none
  | [] => none

def date (text : List Char) : Option (Moment × List Char) := do
  let (year, text) ← digits 4 4 text
  let text ← mark '-' text
  let (month, text) ← digits 1 2 text
  let text ← mark '-' text
  let (day, text) ← digits 1 2 text
  pure ({ year, month, day }, text)

/-- The microseconds that the digits after the point spell. -/
def microseconds (places : List Char) : Nat :=
  let kept := places.take 6
  decimalNumber (kept ++ List.replicate (6 - kept.length) '0')

/-- Read the distance from universal time, up to the end of the text. -/
def zone (text : List Char) : Option (Option Int) :=
  match text.dropWhile isBlank with
  | [] => if text.isEmpty then some none else none
  | ['Z'] => some (some 0)
  | sign :: rest => do
      if sign ≠ '+' && sign ≠ '-' then
        none
      let (hours, rest) ← digits 1 2 rest
      let minutes ←
        if rest.isEmpty then
          some 0
        else do
          let rest ← mark ':' rest
          let (minutes, rest) ← digits 2 2 rest
          if rest.isEmpty then some minutes else none
      let size : Int := hours * 60 + minutes
      pure (some (if sign = '-' then -size else size))

/-- Read the blanks or the letter between date and time of day. -/
def divider : List Char → Option (List Char)
  | 'T' :: rest => some rest
  | 't' :: rest => some rest
  | text =>
      let rest := text.dropWhile isBlank
      if rest.length < text.length then some rest else none

def clock (day : Moment) (text : List Char) : Option Timestamp := do
  let text ← divider text
  let (hour, text) ← digits 1 2 text
  let text ← mark ':' text
  let (minute, text) ← digits 2 2 text
  let text ← mark ':' text
  let (second, text) ← digits 2 2 text
  let (places, text) :=
    match text with
    | '.' :: rest => (rest.takeWhile Char.isDigit, rest.dropWhile Char.isDigit)
    | _ => ([], text)
  let offset ← zone text
  let moment : Moment :=
    { day with hour, minute, second, micro := microseconds places }
  pure { moment, timed := true, offset }

def read? (text : List Char) : Option Timestamp := do
  let (day, rest) ← date text
  if rest.isEmpty then pure { moment := day } else clock day rest

/-- Is a text without a tag taken for a point in time?  A date alone then needs
all its digits. -/
def isPlain (text : List Char) : Bool :=
  match read? text with
  | none => false
  | some stamp => stamp.timed || text.length = 10

/-- Is there such a point in time?  The distance from universal time has to be
less than a day. -/
def exists? (stamp : Timestamp) : Bool :=
  stamp.moment.exists? && (stamp.offset.all fun minutes => minutes.natAbs < 1440)

end Timestamp

end CallAudit.Yaml
