import CallAudit.Cli.Option
import CallAudit.Text.Digit

/-!
# Words of the command line

Every word of a command line is an operand or an option, which is told from the
word alone; only after a divider `--` are all words operands.

* A word without a dash in front, a dash alone and a negative number are
  operands, and so is a word with a blank that is no option.
* An option can be written out, with its value behind an equals sign, as a short
  letter with its value right behind it, or as the beginning of the only long
  spelling that goes on like that.
-/

namespace CallAudit.Cli

/-- What a word of the command line is. -/
inductive Word where
  | operand (text : String)
  | divider
  /-- An option and the value that its own word gives; `joined` tells that the
  value is what follows a short option without an equals sign. -/
  | flag (flag : Flag) (joined : Bool) (value : Option String)
  /-- A word that looks like an option and is none. -/
  | stray
  deriving DecidableEq, Repr

/-- A command line that cannot be understood. -/
inductive Misuse where
  /-- A word is the beginning of several options. -/
  | ambiguous (word : String)
  /-- An option lacks its value. -/
  | valueMissing (flag : Flag)
  /-- An option without values was given one. -/
  | valueIgnored (flag : Flag) (value : String)
  /-- A value is not one of those that an option admits. -/
  | invalidChoice (flag : Flag) (value : String)
  /-- There are words that nothing asked for. -/
  | unrecognized
  deriving DecidableEq, Repr

namespace Word

/-- Is a text a number with a minus sign in front?  A line feed at its end does
not count. -/
def isNegativeNumber (text : List Char) : Bool :=
  match text with
  | '-' :: rest =>
      let shown := if rest.getLast? = some '\n' then rest.dropLast else rest
      let whole := shown.takeWhile Text.isDecimalDigit
      match shown.dropWhile Text.isDecimalDigit with
      | [] => !whole.isEmpty
      | '.' :: places => !places.isEmpty && places.all Text.isDecimalDigit
      | _ => false
  | _ => false

def cutAtEquals (text : List Char) : String × Option String :=
  let name := text.takeWhile (· != '=')
  match text.dropWhile (· != '=') with
  | [] => (String.ofList name, none)
  | _ :: value => (String.ofList name, some (String.ofList value))

def beginningWith (start : String) : List Flag :=
  (Flag.spellings.filter fun entry =>
    start.toList.isPrefixOf entry.1.toList).map Prod.snd

/-- A word with an equals sign behind a spelling of an option. -/
def assigned? (text : String) : Option Word :=
  match cutAtEquals text.toList with
  | (name, some value) =>
      (Flag.ofSpelling? name).map fun found => .flag found false (some value)
  | _ => none

/-- A word that is no option: an operand or a stray one. -/
def unmatched (text : String) : Word :=
  if isNegativeNumber text.toList || text.toList.contains ' ' then
    .operand text
  else
    .stray

/-- A word with two dashes in front that may be the beginning of an option. -/
def abbreviated (text : String) : Except Misuse Word :=
  let (start, value) := cutAtEquals text.toList
  match beginningWith start with
  | [] => .ok (unmatched text)
  | [found] => .ok (.flag found false value)
  | _ => .error (.ambiguous text)

/-- A word with one dash in front that may be a letter with a value. -/
def clustered (text : String) : Word :=
  match Flag.ofSpelling? (String.ofList (text.toList.take 2)) with
  | some found => .flag found true (some (String.ofList (text.toList.drop 2)))
  | none => unmatched text

/-- What a word is, when it does not come after a divider. -/
def ofText (text : String) : Except Misuse Word :=
  match text.toList with
  | '-' :: second :: _ =>
      match Flag.ofSpelling? text with
      | some found => .ok (.flag found false none)
      | none =>
          match assigned? text with
          | some word => .ok word
          | none =>
              if second = '-' then abbreviated text else .ok (clustered text)
  | _ => .ok (.operand text)

def ofTexts : List String → Except Misuse (List Word)
  | [] => .ok []
  | text :: rest =>
      if text = "--" then
        .ok (.divider :: rest.map .operand)
      else do
        let word ← ofText text
        let words ← ofTexts rest
        return word :: words

end Word

end CallAudit.Cli
