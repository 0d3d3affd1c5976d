import CallAudit.Settings.Check
import CallAudit.Text.Blank

/-!
# Options over settings

Options of the command line are laid over the settings of a file.  Sets of
names and patterns for files to take are replaced, patterns for files to leave
out are added, and the result is checked as a whole.
-/

namespace CallAudit

/-- The options that change settings.  An empty list is an option that was not
given. -/
structure Overrides where
  watch : List String := []
  safe : List String := []
  including : List String := []
  excluding : List String := []
  failOnHigh : Bool := false
  minLevel : Option String := none
  deriving DecidableEq, Repr, Inhabited

namespace Overrides

/-- The names in one value of an option: what stands between commas, without
white space around it. -/
def namesIn (value : String) : List String :=
  ((Text.split ',' value).map Text.trim).filter fun name => name != ""

/-- The set of names that the values of an option give, unless the option was
not given. -/
def names? (values : List String) : Option Names :=
  if values.isEmpty then none else some (.ofList (values.flatMap namesIn))

def layer (overrides : Overrides) (settings : Settings) : Settings :=
  { settings with
    watched := (names? overrides.watch).getD settings.watched,
    safe := (names? overrides.safe).getD settings.safe,
    fileGlobs :=
      if overrides.including.isEmpty then settings.fileGlobs
      else overrides.including,
    excludeGlobs := settings.excludeGlobs ++ overrides.excluding,
    failOnHigh := overrides.failOnHigh || settings.failOnHigh,
    minLevel :=
      match overrides.minLevel with
      | none => settings.minLevel
      | some level => if level = "" then settings.minLevel else level }

/-- The settings after the options were laid over them, when they can be
used. -/
def apply (overrides : Overrides) (settings : Settings) :
    Except SettingsFault Settings :=
  (overrides.layer settings).checked

end Overrides

end CallAudit
