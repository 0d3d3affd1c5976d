import CallAudit.Settings.Check
import CallAudit.Text.Upper
import CallAudit.Yaml.Printed

/-!
# Settings from a file

A settings file holds a mapping.  Keys may be spelt with underscores or in
mixed case; unknown keys are passed over, and of two entries for one setting
the later one counts.

The settings are looked at in a fixed order and the first trouble is told: an
entry of the wrong kind, which is a fault of the settings, or a value without a
text, which is not.
-/

namespace CallAudit.Settings

def keySpellings : List (String × String) :=
  [("sourceRoot", "source_root"), ("watchedFunctions", "watched_functions"),
    ("safeConversionFunctions", "safe_conversion_functions"),
    ("fileGlobs", "file_globs"), ("excludeGlobs", "exclude_globs"),
    ("failOnHigh", "fail_on_high"), ("minLevel", "min_level")]

def settingName (key : String) : String :=
  (keySpellings.lookup key).getD key

def spells (setting : String) : Yaml.Value → Bool
  | .text key => settingName key = setting
  | _ => false

abbrev Entries := List (Yaml.Value × Yaml.Value)

/-- The value of a setting: that of the last entry for it. -/
def entry? (entries : Entries) (setting : String) : Option Yaml.Value :=
  (entries.reverse.find? fun entry => spells setting entry.1).map Prod.snd

/-- The value of a setting, unless it is left open. -/
def given? (entries : Entries) (setting : String) : Option Yaml.Value :=
  match entry? entries setting with
  | some .null => none
  | found => found

def textOf (value : Yaml.Value) : Except LoadFault String :=
  value.asText.mapError .value

def textsOf (items : List Yaml.Value) : Except LoadFault (List String) :=
  (items.mapM Yaml.Value.asText).mapError .value

def textsOfPairs (items : List (Yaml.Value × Yaml.Value)) :
    Except LoadFault (List String) :=
  (Yaml.shownPairs items).mapError .value

def textEntry (entries : Entries) (setting fallback : String) :
    Except LoadFault String :=
  match given? entries setting with
  | none => .ok fallback
  | some value => textOf value

def namesEntry (entries : Entries) (setting : String) (fallback : Names) :
    Except LoadFault Names :=
  match given? entries setting with
  | none => .ok fallback
  | some (.list items) => (textsOf items).map .ofList
  | some (.pairs items) => (textsOfPairs items).map .ofList
  | some _ => .error (.settings (.namesExpected setting))

/-- A setting that is a list of patterns, or what it is without an entry.  A
single text is a list of one pattern. -/
def patternsEntry (entries : Entries) (setting : String)
    (fallback : List String) : Except LoadFault (List String) :=
  match given? entries setting with
  | none => .ok fallback
  | some (.text pattern) => .ok [pattern]
  | some (.list items) => textsOf items
  | some (.pairs items) => textsOfPairs items
  | some _ => .error (.settings (.patternsExpected setting))

/-- A setting that is a switch, or what it is without an entry.  An entry that
is left open is refused. -/
def switchEntry (entries : Entries) (setting : String) (fallback : Bool) :
    Except LoadFault Bool :=
  match entry? entries setting with
  | none => .ok fallback
  | some (.switch on) => .ok on
  | some _ => .error (.settings (.switchExpected setting))

/-- The least level, or what it is without an entry.  Levels may be given in
small letters. -/
def levelEntry (entries : Entries) (fallback : String) :
    Except LoadFault String :=
  match given? entries "min_level" with
  | none => .ok fallback
  | some value => (textOf value).map Text.upper

/-- The settings that the entries of a file make, before they are checked as a
whole. -/
def ofEntries (path : String) (entries : Entries) :
    Except LoadFault Settings := do
  let base := standard
  let sourceRoot ← textEntry entries "source_root" base.sourceRoot
  let watched ← namesEntry entries "watched_functions" base.watched
  let safe ← namesEntry entries "safe_conversion_functions" base.safe
  let fileGlobs ← patternsEntry entries "file_globs" base.fileGlobs
  let excludeGlobs ← patternsEntry entries "exclude_globs" base.excludeGlobs
  let failOnHigh ← switchEntry entries "fail_on_high" base.failOnHigh
  let minLevel ← levelEntry entries base.minLevel
  pure
    { sourceRoot, watched, safe, fileGlobs, excludeGlobs, failOnHigh, minLevel,
      configPath := some path }

/-- The settings that entries make, once they are checked. -/
def ofMapping (path : String) (entries : Entries) : Except LoadFault Settings :=
  (ofEntries path entries).bind fun settings =>
    settings.checked.mapError .settings

/-- The settings that the value of a file makes.  A file without content leaves
everything as it is. -/
def ofValue (path : String) (value : Yaml.Value) : Except LoadFault Settings :=
  if value.isVoid then
    ofMapping path []
  else
    match value with
    | .mapping entries => ofMapping path entries
    | _ => .error (.settings (.mappingExpected path))

end CallAudit.Settings
