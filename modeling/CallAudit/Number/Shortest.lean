import CallAudit.Number.Binary

/-!
# Numbers as decimal text

A floating-point number is written with the fewest digits that read back as the
same number, and among those with the digits nearest to it.  Very small and
very large numbers are written with a power of ten.

A number can also be written with a fixed number of places, rounded to the
nearest, in the middle to the even digit.
-/

namespace CallAudit.Binary

/-- A decimal: `digits` times a power of ten. -/
structure Decimal where
  digits : Nat
  power : Int
  deriving DecidableEq, Repr

/-- The power of ten of the leading digit of a positive fraction. -/
def leadingPower (num den : Nat) : Int :=
  if den ≤ num then
    ((Nat.toDigits 10 (num / den)).length : Int) - 1
  else
    let quotient := den / num
    let size : Int := (Nat.toDigits 10 quotient).length
    if quotient * num = den && quotient = Nat.pow 10 (size - 1).toNat then 1 - size
    else -size

/-- A fraction divided by a power of ten, as numerator and denominator. -/
def scaleByTen (num den : Nat) (power : Int) : Nat × Nat :=
  if power < 0 then (num * Nat.pow 10 (-power).toNat, den)
  else (num, den * Nat.pow 10 power.toNat)

/-- The decimals with a given last place around a fraction, the nearer one
first. -/
def neighbours (num den : Nat) (power : Int) : List Decimal :=
  let scaled := scaleByTen num den power
  let below := scaled.1 / scaled.2
  let nearest := roundQuotient scaled.1 scaled.2
  if nearest = below then [⟨below, power⟩, ⟨below + 1, power⟩]
  else [⟨below + 1, power⟩, ⟨below, power⟩]

/-- The first decimal that reads back as a given positive number, tried from
the place of the leading digit on towards smaller places. -/
def shortestFrom (number : Binary) (num den : Nat) : Nat → Int → Decimal
  | 0, power => ⟨roundQuotient (scaleByTen num den power).1
      (scaleByTen num den power).2, power⟩
  | tries + 1, power =>
      match (neighbours num den power).find? fun decimal =>
          ofDecimal false decimal.digits decimal.power = number with
      | some decimal => decimal
      | none => shortestFrom number num den tries (power - 1)

def significantDigits (n : Nat) : List Char :=
  ((Nat.toDigits 10 n).reverse.dropWhile (· = '0')).reverse

def exponentText (exponent : Int) : String :=
  let digits := Nat.toDigits 10 exponent.natAbs
  let padded := if digits.length < 2 then '0' :: digits else digits
  (if exponent < 0 then "-" else "+") ++ String.ofList padded

/-- Digits with the decimal point after the first `point` of them; zeros fill
the gap when the point lies outside. -/
def positional (digits : List Char) (point : Int) : String :=
  if point ≤ 0 then
    "0." ++ String.ofList (List.replicate (-point).toNat '0' ++ digits)
  else
    let whole := digits.take point.toNat
    let filled := whole ++ List.replicate (point.toNat - whole.length) '0'
    let places := digits.drop point.toNat
    String.ofList filled ++ "." ++
      (if places.isEmpty then "0" else String.ofList places)

def scientific (digits : List Char) (point : Int) : String :=
  let places := digits.drop 1
  String.ofList (digits.take 1) ++
    (if places.isEmpty then "" else "." ++ String.ofList places) ++
    "e" ++ exponentText (point - 1)

def decimalText (decimal : Decimal) : String :=
  let point : Int := (Nat.toDigits 10 decimal.digits).length + decimal.power
  let digits := significantDigits decimal.digits
  if -4 < point && point ≤ 16 then positional digits point
  else scientific digits point

def text (number : Binary) : String :=
  let sign := if number.isNegative then "-" else ""
  match number with
  | .notANumber => "nan"
  | .infinite _ => sign ++ "inf"
  | .finite _ significand exponent =>
      if significand = 0 then
        sign ++ "0.0"
      else
        let size := Binary.finite false significand exponent
        match size.fraction? with
        | none => ""
        | some (num, den) =>
            sign ++
              decimalText (shortestFrom size num den 17 (leadingPower num den))

def fixedText (places : Nat) (number : Binary) : String :=
  let sign := if number.isNegative then "-" else ""
  match number.fraction? with
  | none => number.text
  | some (num, den) =>
      let digits := Nat.toDigits 10 (roundQuotient (num * Nat.pow 10 places) den)
      let padded :=
        List.replicate (places + 1 - digits.length) '0' ++ digits
      let whole := padded.take (padded.length - places)
      sign ++ String.ofList whole ++ "." ++
        String.ofList (padded.drop (padded.length - places))

end CallAudit.Binary
