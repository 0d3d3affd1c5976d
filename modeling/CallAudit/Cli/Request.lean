import CallAudit.Cli.Word
import CallAudit.Settings.Override

/-!
# Requests

What a command line asks for: help, or an audit with its options.  The words are
taken from left to right; the first one that asks for help or cannot be used
settles the matter, and words that nothing asked for are complained about at the
end.
-/

namespace CallAudit.Cli

structure Options where
  target : Option String := none
  config : Option String := none
  overrides : Overrides := {}
  json : Bool := false
  reportFile : Option String := none
  banner : Bool := true
  progress : Bool := true
  deriving DecidableEq, Repr, Inhabited

/-- What a command line asks for. -/
inductive Request where
  | help
  | audit (options : Options)
  deriving DecidableEq, Repr

namespace Options

def switchOn (options : Options) : Flag → Options
  | .failOnHigh =>
      { options with overrides := { options.overrides with failOnHigh := true } }
  | .noBanner => { options with banner := false }
  | .noProgress => { options with progress := false }
  | _ => options

/-- Give an option a value.  Options for several values collect them, the others
keep the last one. -/
def withValue (options : Options) (flag : Flag) (value : String) : Options :=
  let overrides := options.overrides
  match flag with
  | .config => { options with config := some value }
  | .watch =>
      { options with
        overrides := { overrides with watch := overrides.watch ++ [value] } }
  | .safe =>
      { options with
        overrides := { overrides with safe := overrides.safe ++ [value] } }
  | .including =>
      { options with
        overrides :=
          { overrides with including := overrides.including ++ [value] } }
  | .excluding =>
      { options with
        overrides :=
          { overrides with excluding := overrides.excluding ++ [value] } }
  | .output => { options with json := value = "json" }
  | .outputFile => { options with reportFile := some value }
  | .minLevel =>
      { options with overrides := { overrides with minLevel := some value } }
  | _ => options

def assign (options : Options) (flag : Flag) (value : String) :
    Except Misuse Options :=
  if flag.admits value then .ok (options.withValue flag value)
  else .error (.invalidChoice flag value)

end Options

/-- A command line under way: the options so far, whether the target was taken,
and whether there were words that nothing asked for. -/
structure Reading where
  options : Options := {}
  targetTaken : Bool := false
  leftover : Bool := false
  deriving Inhabited

namespace Reading

def finish (reading : Reading) : Except Misuse Request :=
  if reading.leftover then .error .unrecognized
  else .ok (.audit reading.options)

def takeTarget (reading : Reading) (target : Option String) : Reading :=
  { reading with
    options := { reading.options with target := target },
    targetTaken := true }

def leave (reading : Reading) : Reading :=
  { reading with leftover := true }

/-- Read the letters behind the short option for help, with the word after
them.  Short options may follow each other up to one that comes with a value,
which is the rest of the letters or else the next word. -/
def helpCluster (next : Option Word) : List Char → Except Misuse Request
  | [] => .ok .help
  | c :: rest =>
      if c = '-' || c = '=' then
        .error (.valueIgnored .help (String.ofList (c :: rest)))
      else
        match Flag.ofSpelling? (String.ofList ['-', c]), rest, next with
        | none, _, _ => .ok .help
        | some _, [], some (.operand _) => .ok .help
        | some flag, [], _ =>
            if flag.takesValue then .error (.valueMissing flag) else .ok .help
        | some flag, rest, _ =>
            if flag.takesValue then .ok .help else helpCluster next rest

/-- The outcome of an option without values that was given one in its word:
more letters behind the short option for help are fine, all else is not. -/
def clusterOf (flag : Flag) (joined : Bool) (value : String)
    (next : Option Word) : Except Misuse Request :=
  if joined then helpCluster next value.toList
  else .error (.valueIgnored flag value)

def switchOn (reading : Reading) (flag : Flag) : Reading :=
  { reading with options := reading.options.switchOn flag }

def through : List Word → Reading → Except Misuse Request
  | [], reading => reading.finish
  | .stray :: rest, reading => through rest reading.leave
  | .divider :: .operand text :: rest, reading =>
      if reading.targetTaken then through rest reading.leave
      else through rest (reading.takeTarget (some text))
  | .divider :: rest, reading =>
      through rest
        (if reading.targetTaken then reading.leave
          else reading.takeTarget none)
  | .operand text :: .divider :: rest, reading =>
      if reading.targetTaken then through (.divider :: rest) reading.leave
      else through rest (reading.takeTarget (some text))
  | .operand text :: rest, reading =>
      through rest
        (if reading.targetTaken then reading.leave
          else reading.takeTarget (some text))
  | .flag flag joined (some value) :: rest, reading =>
      if flag.takesValue then do
        let options ← reading.options.assign flag value
        through rest { reading with options := options }
      else
        clusterOf flag joined value rest.head?
  | .flag flag _ none :: .operand text :: rest, reading =>
      if flag = .help then
        .ok .help
      else if flag.takesValue then do
        let options ← reading.options.assign flag text
        through rest { reading with options := options }
      else
        through (.operand text :: rest) (reading.switchOn flag)
  | .flag flag _ none :: rest, reading =>
      if flag = .help then .ok .help
      else if flag.takesValue then .error (.valueMissing flag)
      else through rest (reading.switchOn flag)

end Reading

def Request.ofArguments (arguments : List String) : Except Misuse Request := do
  let words ← Word.ofTexts arguments
  Reading.through words {}

end CallAudit.Cli
