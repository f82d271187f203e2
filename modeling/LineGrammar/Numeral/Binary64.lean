/-!
# Binary floating-point numbers

A number of 64 bits is kept as the exact value it stands for: a sign, a significand below 2^53 and
a power of two from -1074 to 971. Every function that forms one rounds an exact quotient once, to
the nearest number, a tie to the even significand; beyond the greatest number it forms an infinity.
Comparison is exact, also with integers, and a number that is not a number compares with nothing.
-/

namespace LineGrammar.Numeral

/-- A binary floating-point number of 64 bits. -/
inductive Binary64 where
  /-- The value is the significand times two to the exponent, with the sign. -/
  | finite (negative : Bool) (significand : Nat) (exponent : Int)
  | infinite (negative : Bool)
  | notANumber
deriving DecidableEq, Inhabited

/-- The nearest integer to a quotient; a tie goes to the even one. -/
def roundedQuotient (numerator denominator : Nat) : Nat :=
  let quotient := numerator / denominator
  let twice := 2 * (numerator % denominator)
  if twice < denominator then quotient
  else if denominator < twice then quotient + 1
  else if quotient % 2 = 0 then quotient else quotient + 1

/-- The quotient of two naturals after division by a power of two, rounded to nearest. -/
def roundedScaled (numerator denominator : Nat) (exponent : Int) : Nat :=
  if 0 ≤ exponent then roundedQuotient numerator (denominator * Nat.pow 2 exponent.toNat)
  else roundedQuotient (numerator * Nat.pow 2 (-exponent).toNat) denominator

namespace Binary64

/-- The number zero. -/
def zero : Binary64 := .finite false 0 (-1074)

/-- The exponent of a quotient whose significand has 53 bits, or the least one. It is found from
the lengths of the two numbers, which leave one choice open. -/
def exponentFor (numerator denominator : Nat) : Int :=
  let guess : Int := (numerator.log2 : Int) - (denominator.log2 : Int) - 53
  let tooSmall :=
    if 0 ≤ guess then denominator * Nat.pow 2 guess.toNat * Nat.pow 2 53 ≤ numerator
    else denominator * Nat.pow 2 53 ≤ numerator * Nat.pow 2 (-guess).toNat
  max (if tooSmall then guess + 1 else guess) (-1074)

/-- The number nearest to a quotient of naturals; the denominator is positive. -/
def ofQuotient (negative : Bool) (numerator denominator : Nat) : Binary64 :=
  if numerator = 0 then .finite negative 0 (-1074)
  else
    let exponent := exponentFor numerator denominator
    let significand := roundedScaled numerator denominator exponent
    let (significand, exponent) :=
      if significand = Nat.pow 2 53 then (Nat.pow 2 52, exponent + 1) else (significand, exponent)
    if 971 < exponent then .infinite negative else .finite negative significand exponent

/-- The number nearest to an integer. -/
def ofInt (n : Int) : Binary64 := ofQuotient (n < 0) n.natAbs 1

/-- The number nearest to a decimal, its digits as one natural and its power of ten. Decimals too
great or too small for any rounding to matter are settled by their number of digits. -/
def ofDecimal (negative : Bool) (digits : Nat) (exponent : Int) : Binary64 :=
  if digits = 0 then .finite negative 0 (-1074)
  else
    let magnitude := ((Nat.toDigits 10 digits).length : Int) + exponent
    if 310 < magnitude then .infinite negative
    else if magnitude < -330 then .finite negative 0 (-1074)
    else if 0 ≤ exponent then ofQuotient negative (digits * Nat.pow 10 exponent.toNat) 1
    else ofQuotient negative digits (Nat.pow 10 (-exponent).toNat)

/-- Whether a number is finite. -/
def isFinite : Binary64 → Bool
  | .finite .. => true
  | _ => false

/-- A finite value as an integer count of the least positive number, two to the power of -1074. -/
def scaled (negative : Bool) (significand : Nat) (exponent : Int) : Int :=
  let magnitude : Int := (significand * Nat.pow 2 (exponent + 1074).toNat : Nat)
  if negative then -magnitude else magnitude

/-- The number nearest to an integer count of the least positive number. -/
def ofScaled (count : Int) : Binary64 := ofQuotient (count < 0) count.natAbs (Nat.pow 2 1074)

/-- The number with the other sign. -/
def negated : Binary64 → Binary64
  | .finite negative significand exponent => .finite (!negative) significand exponent
  | .infinite negative => .infinite (!negative)
  | .notANumber => .notANumber

/-- The sum of two numbers. -/
def add : Binary64 → Binary64 → Binary64
  | .finite n m e, .finite n' m' e' => ofScaled (scaled n m e + scaled n' m' e')
  | .infinite n, .infinite n' => if n = n' then .infinite n else .notANumber
  | .infinite n, .finite .. => .infinite n
  | .finite .., .infinite n => .infinite n
  | _, _ => .notANumber

/-- A positive multiple of a number. -/
def timesNat (x : Binary64) (factor : Nat) : Binary64 :=
  match x with
  | .finite n m e => ofScaled (scaled n m e * factor)
  | other => other

/-- Whether the first number is less than the second. -/
def lt : Binary64 → Binary64 → Bool
  | .notANumber, _ => false
  | _, .notANumber => false
  | .infinite negative, .infinite other => negative && !other
  | .infinite negative, .finite .. => negative
  | .finite .., .infinite negative => !negative
  | .finite n m e, .finite n' m' e' => decide (scaled n m e < scaled n' m' e')

/-- Whether an integer is less than a number. -/
def intLt (n : Int) : Binary64 → Bool
  | .notANumber => false
  | .infinite negative => !negative
  | .finite s m e => decide (n * Nat.pow 2 1074 < scaled s m e)

/-- Whether a number is less than an integer. -/
def ltInt (n : Int) : Binary64 → Bool
  | .notANumber => false
  | .infinite negative => negative
  | .finite s m e => decide (scaled s m e < n * Nat.pow 2 1074)

/-- Whether two numbers compare as equal: the two zeros do, and a number that is not a number
equals nothing. -/
def beq : Binary64 → Binary64 → Bool
  | .finite n m e, .finite n' m' e' => decide (scaled n m e = scaled n' m' e')
  | .infinite negative, .infinite other => negative == other
  | _, _ => false

end Binary64

end LineGrammar.Numeral
