import CallAudit.Number.Binary
import CallAudit.Text.Blank
import CallAudit.Text.Split
import CallAudit.Yaml.Tagging

/-!
# Numbers

Which texts are taken for numbers, and the numbers that they spell.  Whole
numbers may be written in base two, eight, ten and sixteen, and numbers of
either kind in groups of sixty divided by colons.  Underscores are for the eye
only.
-/

namespace CallAudit.Yaml

def dropSign : List Char → List Char
  | '+' :: rest => rest
  | '-' :: rest => rest
  | text => text

def isSpacedDigit (c : Char) : Bool :=
  c.isDigit || c = '_'

def dropSixtieth : List Char → Option (List Char)
  | ':' :: high :: low :: rest =>
      if '0' ≤ high && high ≤ '5' && low.isDigit then some rest
      else if high.isDigit then some (low :: rest)
      else none
  | [':', digit] => if digit.isDigit then some [] else none
  | _ => none

def dropSixtieths : Nat → List Char → List Char
  | 0, text => text
  | bound + 1, text =>
      match dropSixtieth text with
      | none => text
      | some rest => dropSixtieths bound rest

/-- Is this an exponent with its sign, or nothing? -/
def isExponent : List Char → Bool
  | [] => true
  | mark :: sign :: digits =>
      (mark = 'e' || mark = 'E') && (sign = '+' || sign = '-') &&
        !digits.isEmpty && digits.all Char.isDigit
  | _ => false

/-- Skip the digits of a number; there has to be one in front. -/
def dropDigits? : List Char → Option (List Char)
  | c :: rest =>
      if c.isDigit then some (rest.dropWhile isSpacedDigit) else none
  | [] => none

/-- Is a text without a tag taken for a number with a point? -/
def isReal (text : List Char) : Bool :=
  let unsigned := dropSign text
  let pointed :=
    match dropDigits? unsigned with
    | some ('.' :: places) => isExponent (places.dropWhile isSpacedDigit)
    | _ => false
  let leading :=
    match text with
    | '.' :: places => (dropDigits? places).any isExponent
    | _ => false
  let grouped :=
    match dropDigits? unsigned with
    | some groups =>
        match dropSixtieths groups.length groups with
        | '.' :: places =>
            groups.head? = some ':' && places.all isSpacedDigit
        | _ => false
    | none => false
  pointed || leading || grouped ||
    [".inf", ".Inf", ".INF"].contains (String.ofList unsigned) ||
    [".nan", ".NaN", ".NAN"].contains (String.ofList text)

def isWhole (text : List Char) : Bool :=
  match dropSign text with
  | ['0'] => true
  | '0' :: 'b' :: rest =>
      !rest.isEmpty && rest.all fun c => c = '0' || c = '1' || c = '_'
  | '0' :: 'x' :: rest =>
      !rest.isEmpty && rest.all fun c => (hexDigit? c).isSome || c = '_'
  | '0' :: rest => rest.all fun c => ('0' ≤ c && c ≤ '7') || c = '_'
  | c :: rest =>
      let groups := rest.dropWhile isSpacedDigit
      c.isDigit && (dropSixtieths groups.length groups).isEmpty
  | [] => false

/-- The number that digits of a base spell; there has to be one. -/
def digitsValue? (base : Nat) (text : List Char) : Option Nat :=
  if text.isEmpty then
    none
  else
    text.foldlM
      (fun number c =>
        match hexDigit? c with
        | some digit =>
            if digit < base then some (number * base + digit) else none
        | none => none)
      0

/-- The whole number that a text spells in a base, with white space and a sign
in front allowed. -/
def wholeIn? (base : Nat) (text : List Char) : Option Int :=
  let trimmed := Text.trimChars Text.isBlank text
  let unsigned := dropSign trimmed
  if base = 10 && longestNumber < unsigned.length then none
  else (digitsValue? base unsigned).map fun (value : Nat) =>
    if trimmed.head? = some '-' then -(value : Int) else (value : Int)

/-- The value of groups of sixty, the last one first. -/
def sixtieths (groups : List Int) : Int :=
  groups.foldr (fun group total => group + 60 * total) 0

def wholeValue (text : String) : Except Fault Int :=
  let digits := text.toList.filter (· ≠ '_')
  let unsigned := dropSign digits
  let signed (value : Option Int) : Except Fault Int :=
    match value with
    | none => .error (.value .notANumber)
    | some value =>
        .ok (if digits.head? = some '-' then -value else value)
  match digits, unsigned with
  | [], _ => .error (.value .emptyNumber)
  | _, ['0'] => .ok 0
  | _, '0' :: 'b' :: rest => signed (wholeIn? 2 rest)
  | _, '0' :: 'x' :: rest => signed (wholeIn? 16 rest)
  | _, '0' :: 'o' :: rest => signed (wholeIn? 8 rest)
  | _, [] => .error (.value .emptyNumber)
  | _, '0' :: rest =>
      if rest.contains ':' then .error (.value .notANumber)
      else signed (wholeIn? 8 ('0' :: rest))
  | _, unsigned =>
      if unsigned.contains ':' then
        signed (((Text.splitChars ':' unsigned).mapM (wholeIn? 10)).map fun groups =>
          sixtieths groups.reverse)
      else
        signed (wholeIn? 10 unsigned)

/-- The number that digits with a point and an exponent spell. -/
def decimalValue? (text : List Char) : Option Binary :=
  let whole := text.takeWhile Char.isDigit
  let rest := text.dropWhile Char.isDigit
  let (places, rest) :=
    match rest with
    | '.' :: rest => (rest.takeWhile Char.isDigit, rest.dropWhile Char.isDigit)
    | _ => ([], rest)
  let exponent : Option Int :=
    match rest with
    | [] => some 0
    | 'e' :: rest =>
        let digits := dropSign rest
        if digits.isEmpty || !digits.all Char.isDigit then none
        else
          let size : Int := decimalNumber digits
          some (if rest.head? = some '-' then -size else size)
    | _ => none
  if whole.isEmpty && places.isEmpty then none
  else exponent.map fun exponent =>
    Binary.ofDecimal false (decimalNumber (whole ++ places))
      (exponent - places.length)

/-- The number that a text in small letters spells, with white space and a sign
in front allowed. -/
def realOf? (text : List Char) : Option Binary :=
  let trimmed := Text.trimChars Text.isBlank text
  let unsigned := dropSign trimmed
  let size : Option Binary :=
    match String.ofList unsigned with
    | "inf" => some (.infinite false)
    | "infinity" => some (.infinite false)
    | "nan" => some .notANumber
    | _ => decimalValue? unsigned
  size.map fun size => if trimmed.head? = some '-' then size.negate else size

/-- The value of groups of sixty with a point, the last one first. -/
def sixtiethsReal (groups : List Binary) : Binary :=
  (groups.foldl
    (fun (state : Binary × Nat) group =>
      (state.1.addSizes (group.mulSizes (Binary.ofNat state.2)), state.2 * 60))
    (Binary.zero false, 1)).1

/-- The number with a point that a text declared as one spells. -/
def realValue (text : String) : Except Fault Binary :=
  let digits := (text.toList.filter (· ≠ '_')).map Char.toLower
  let unsigned := dropSign digits
  let signed (value : Binary) : Binary :=
    if digits.head? = some '-' then value.negate else value
  if digits.isEmpty then .error (.value .emptyNumber)
  else if unsigned = ".inf".toList then .ok (signed (.infinite false))
  else if unsigned = ".nan".toList then .ok .notANumber
  else
    let value :=
      if unsigned.contains ':' then
        ((Text.splitChars ':' unsigned).mapM realOf?).map fun groups =>
          sixtiethsReal groups.reverse
      else
        realOf? unsigned
    match value with
    | none => .error (.value .notANumber)
    | some value => .ok (signed value)

end CallAudit.Yaml
