/-!
# Faults of settings files

The ways in which a settings file can fail to have a value, and in which a value
can fail to have a text.
-/

namespace CallAudit.Yaml

/-- Why a value cannot be worked out. -/
inductive ValueFault where
  /-- A text that is declared a number is not one. -/
  | notANumber
  /-- A text that is declared a number is empty. -/
  | emptyNumber
  /-- A text that is declared a switch is not the name of a switch position. -/
  | notASwitch (text : String)
  /-- A text that is declared a point in time does not look like one. -/
  | notATime
  /-- There is no such date, time of day or distance from universal time. -/
  | noSuchTime
  /-- An escape asks for a character beyond the last one. -/
  | noSuchCharacter (code : Nat)
  /-- A whole number is too long to be written in base ten. -/
  | tooManyDigits
  deriving DecidableEq, Repr

/-- Why a text has no value. -/
inductive Fault where
  /-- The text does not follow the rules of the format. -/
  | malformed
  | value (fault : ValueFault)
  deriving DecidableEq, Repr

/-- Why a file has no value. -/
inductive ReadFault where
  /-- The file cannot be opened or read, with what the system says about it. -/
  | unreadable (detail : String)
  /-- The file breaches the rules of the format, with an account of where. -/
  | malformed (detail : String)
  /-- The bytes cannot be decoded. -/
  | encoding
  | value (fault : ValueFault)
  deriving DecidableEq, Repr

/-- The most digits that a whole number may have when it is read or written in
base ten. -/
def longestNumber : Nat :=
  4300

end CallAudit.Yaml
