/-!
# Options of the command line

The options, their spellings and whether they come with a value.
-/

namespace CallAudit.Cli

/-- An option of the command line. -/
inductive Flag where
  | help
  | config
  | watch
  | safe
  | including
  | excluding
  | output
  | outputFile
  | minLevel
  | failOnHigh
  | noBanner
  | noProgress
  deriving DecidableEq, Repr

namespace Flag

def spellings : List (String × Flag) :=
  [("-h", .help), ("--help", .help),
    ("--config", .config),
    ("--watch", .watch),
    ("--safe", .safe),
    ("--include", .including),
    ("--exclude", .excluding),
    ("--output", .output),
    ("-o", .outputFile), ("--output-file", .outputFile),
    ("--min-level", .minLevel),
    ("--fail-on-high", .failOnHigh),
    ("--no-banner", .noBanner),
    ("--no-progress", .noProgress)]

def ofSpelling? (spelling : String) : Option Flag :=
  spellings.lookup spelling

def takesValue : Flag → Bool
  | .config | .watch | .safe | .including | .excluding => true
  | .output | .outputFile | .minLevel => true
  | .help | .failOnHigh | .noBanner | .noProgress => false

/-- The values that an option admits, when not all. -/
def choices? : Flag → Option (List String)
  | .output => some ["text", "json"]
  | .minLevel => some ["HIGH", "MEDIUM", "LOW"]
  | _ => none

def admits (flag : Flag) (value : String) : Bool :=
  flag.choices?.all fun choices => choices.contains value

end Flag

end CallAudit.Cli
