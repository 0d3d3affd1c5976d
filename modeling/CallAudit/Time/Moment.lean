/-!
# Dates and times of day

A moment in the calendar, to the microsecond, and its text.
-/

namespace CallAudit

structure Moment where
  year : Nat
  month : Nat
  day : Nat
  hour : Nat := 0
  minute : Nat := 0
  second : Nat := 0
  micro : Nat := 0
  deriving DecidableEq, Repr, Inhabited

namespace Moment

/-- A number with zeros on the left up to a least width. -/
def padded (width n : Nat) : String :=
  let digits := Nat.toDigits 10 n
  String.ofList (List.replicate (width - digits.length) '0' ++ digits)

def isLeap (year : Nat) : Bool :=
  year % 4 = 0 && (year % 100 ≠ 0 || year % 400 = 0)

def monthLength (year month : Nat) : Nat :=
  if month = 2 then (if isLeap year then 29 else 28)
  else if month = 4 || month = 6 || month = 9 || month = 11 then 30
  else 31

def exists? (moment : Moment) : Bool :=
  1 ≤ moment.year && moment.year ≤ 9999 &&
    1 ≤ moment.month && moment.month ≤ 12 &&
    1 ≤ moment.day && moment.day ≤ monthLength moment.year moment.month &&
    moment.hour < 24 && moment.minute < 60 && moment.second < 60

/-- The date, as year, month and day with dashes. -/
def dateText (moment : Moment) : String :=
  padded 4 moment.year ++ "-" ++ padded 2 moment.month ++ "-" ++
    padded 2 moment.day

/-- The time of day to the second, with colons. -/
def clockText (moment : Moment) : String :=
  padded 2 moment.hour ++ ":" ++ padded 2 moment.minute ++ ":" ++
    padded 2 moment.second

def plainText (moment : Moment) : String :=
  moment.dateText ++ " " ++ moment.clockText

/-- Date and time of day with a separator between them; microseconds are
written when there are any. -/
def exactText (separator : String) (moment : Moment) : String :=
  moment.dateText ++ separator ++ moment.clockText ++
    (if moment.micro = 0 then "" else "." ++ padded 6 moment.micro)

end Moment

end CallAudit
