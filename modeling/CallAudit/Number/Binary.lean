/-!
# Binary floating-point numbers

Numbers with a significand of fifty-three bits, as exact values: a sign, a
whole significand and a power of two.  Every operation computes its exact
result as a fraction and rounds once, to the nearest number and, in the middle
between two, to the one with the even significand.
-/

namespace CallAudit

/-- A number with a significand of fifty-three bits. -/
inductive Binary where
  | finite (negative : Bool) (significand : Nat) (exponent : Int)
  | infinite (negative : Bool)
  | notANumber
  deriving DecidableEq, Repr, Inhabited

namespace Binary

def leastExponent : Int :=
  -1074

def greatestExponent : Int :=
  971

def zero (negative : Bool) : Binary :=
  .finite negative 0 leastExponent

/-- A quotient rounded to the nearest whole number, in the middle to the even
one. -/
def roundQuotient (num den : Nat) : Nat :=
  let quotient := num / den
  let rest := num % den
  if 2 * rest < den then quotient
  else if den < 2 * rest then quotient + 1
  else quotient + quotient % 2

/-- A fraction divided by a power of two, as numerator and denominator. -/
def scaleDown (num den : Nat) (power : Int) : Nat × Nat :=
  if power < 0 then (num * Nat.pow 2 (-power).toNat, den)
  else (num, den * Nat.pow 2 power.toNat)

/-- The exponent for which a positive fraction has a significand of full
length. -/
def exponentFor (num den : Nat) : Int :=
  let guess : Int := (Nat.log2 num : Int) - (Nat.log2 den : Int) - 53
  let scaled := scaleDown num den guess
  let full := if Nat.pow 2 53 ≤ scaled.1 / scaled.2 then guess + 1 else guess
  max full leastExponent

def ofFraction (negative : Bool) (num den : Nat) : Binary :=
  if num = 0 then
    zero negative
  else
    let exponent := exponentFor num den
    let scaled := scaleDown num den exponent
    let rounded := roundQuotient scaled.1 scaled.2
    let carried := rounded = Nat.pow 2 53
    let exponent := if carried then exponent + 1 else exponent
    if greatestExponent < exponent then .infinite negative
    else .finite negative (if carried then Nat.pow 2 52 else rounded) exponent

def ofNat (n : Nat) : Binary :=
  ofFraction false n 1

/-- The number nearest to `digits` times a power of ten.  Powers far outside
the range of numbers are not worked out. -/
def ofDecimal (negative : Bool) (digits : Nat) (power : Int) : Binary :=
  let size : Int := (Nat.toDigits 10 digits).length + power
  if digits = 0 || size < -400 then zero negative
  else if 400 < size then .infinite negative
  else if power < 0 then ofFraction negative digits (Nat.pow 10 (-power).toNat)
  else ofFraction negative (digits * Nat.pow 10 power.toNat) 1

/-- The size of a number as a fraction; of an infinite one, nothing. -/
def fraction? : Binary → Option (Nat × Nat)
  | .finite _ significand exponent =>
      let scaled := scaleDown significand 1 (-exponent)
      some scaled
  | _ => none

def isNegative : Binary → Bool
  | .finite negative _ _ => negative
  | .infinite negative => negative
  | .notANumber => false

/-- Is a number zero, with either sign? -/
def isZero : Binary → Bool
  | .finite _ significand _ => significand = 0
  | _ => false

/-- A number with the other sign. -/
def negate : Binary → Binary
  | .finite negative significand exponent =>
      .finite (!negative) significand exponent
  | .infinite negative => .infinite (!negative)
  | .notANumber => .notANumber

/-- The rounded sum of two sizes; infinite if one of them is. -/
def addSizes (left right : Binary) : Binary :=
  match left.fraction?, right.fraction? with
  | some (a, b), some (c, d) => ofFraction false (a * d + c * b) (b * d)
  | _, _ => .infinite false

/-- The rounded product of two sizes; infinite if one of them is. -/
def mulSizes (left right : Binary) : Binary :=
  match left.fraction?, right.fraction? with
  | some (a, b), some (c, d) => ofFraction false (a * c) (b * d)
  | _, _ => .infinite false

/-- Is a number equal to a whole number? -/
def isInt (value : Int) : Binary → Bool
  | .finite negative significand exponent =>
      let scaled := scaleDown significand 1 (-exponent)
      scaled.1 = value.natAbs * scaled.2 &&
        (significand = 0 || negative = decide (value < 0))
  | _ => false

/-- Do two numbers have the same value?  The two zeros have; what is not a
number has the value of nothing. -/
def sameValue (left right : Binary) : Bool :=
  match left, right with
  | .notANumber, _ => false
  | _, .notANumber => false
  | _, _ => left = right || (left.isZero && right.isZero)

end Binary

end CallAudit
