import LineGrammar.Numeral.Binary64

/-!
# Shortest decimals

A number is written with the fewest digits that read back as it, and among those with the nearest.
A decimal reads back when it lies between the two midpoints to the neighbouring numbers; the
midpoints belong to the number when its significand is even. On the grid of a given number of digits
only the two decimals next to the value can be the nearest, so no other is tried.

The layout is positional while the first digit stands between 10^-4 and 10^15, with at least one
digit after the point, and a power of ten of at least two digits otherwise.
-/

namespace LineGrammar.Numeral

/-- A positive value with the interval of values that round to it, all over one denominator. -/
structure Rounding where
  low : Nat
  value : Nat
  high : Nat
  denominator : Nat
  /-- Whether the ends of the interval round to the value. -/
  closed : Bool

/-- The interval of a positive number. Below a power of two the neighbour is half as far. -/
def Rounding.of (significand : Nat) (exponent : Int) : Rounding :=
  let narrow := significand = Nat.pow 2 52 && exponent != -1074
  let scale := if 0 ≤ exponent then Nat.pow 2 exponent.toNat else 1
  let value := 4 * significand * scale
  { low := value - (if narrow then 1 else 2) * scale
    value := value
    high := value + 2 * scale
    denominator := if 0 ≤ exponent then 4 else 4 * Nat.pow 2 (-exponent).toNat
    closed := significand % 2 = 0 }

/-- Whether a quotient of naturals lies in the interval. -/
def Rounding.holds (r : Rounding) (numerator denominator : Nat) : Bool :=
  let point := numerator * r.denominator
  if r.closed then r.low * denominator ≤ point && point ≤ r.high * denominator
  else r.low * denominator < point && point < r.high * denominator

/-- The decimal on the grid of a power of ten that reads back as the value and is nearest to it; a
tie goes to the even digit. -/
def Rounding.onGrid? (r : Rounding) (power : Int) : Option Nat :=
  let up := if 0 ≤ power then Nat.pow 10 power.toNat else 1
  let down := if 0 ≤ power then 1 else Nat.pow 10 (-power).toNat
  let numerator := r.value * down
  let denominator := r.denominator * up
  let below := numerator / denominator
  let twice := 2 * (numerator % denominator)
  let hit (n : Nat) := r.holds (n * up) down
  match hit below, hit (below + 1) with
  | true, true =>
    if twice < denominator then some below
    else if denominator < twice then some (below + 1)
    else some (if below % 2 = 0 then below else below + 1)
  | true, false => some below
  | false, true => some (below + 1)
  | false, false => none

/-- The greatest power of ten that is at most the value, found upward from a lower bound. -/
def leadingPower (r : Rounding) : Int :=
  let atLeast (power : Int) : Bool :=
    if 0 ≤ power then r.denominator * Nat.pow 10 power.toNat ≤ r.value
    else r.denominator ≤ r.value * Nat.pow 10 (-power).toNat
  let guess : Int :=
    ((r.value.log2 : Int) - (r.denominator.log2 : Int)) * 30103 / 100000 - 2
  let step (power : Int) : Int := if atLeast (power + 1) then power + 1 else power
  step (step (step (step guess)))

/-- Digits and power of ten without trailing zeros. -/
def stripZeros : Nat → Nat → Int → Nat × Int
  | 0, digits, power => (digits, power)
  | n + 1, digits, power =>
    if digits % 10 = 0 && digits != 0 then stripZeros n (digits / 10) (power + 1)
    else (digits, power)

/-- The shortest decimal of a positive number, as digits and a power of ten. -/
def shortestDecimal (significand : Nat) (exponent : Int) : Nat × Int :=
  let r := Rounding.of significand exponent
  let leading := leadingPower r
  let found := (List.range 17).findSome? fun more : Nat =>
    let power : Int := leading - more
    (r.onGrid? power).map fun digits => (digits, power)
  let (digits, power) := found.getD (significand, 0)
  stripZeros 20 digits power

/-- Digits with a point after a given number of them, filled up with zeros on either side. -/
def positional (digits : List Char) (point : Int) : List Char :=
  if point ≤ 0 then
    '0' :: '.' :: List.replicate (-point).toNat '0' ++ digits
  else
    let whole := point.toNat
    if digits.length ≤ whole then
      digits ++ List.replicate (whole - digits.length) '0' ++ ['.', '0']
    else digits.take whole ++ '.' :: digits.drop whole

/-- Digits with a power of ten: one digit before the point, and no point after a single digit. -/
def withPower (digits : List Char) (power : Int) : List Char :=
  let mantissa := match digits with
    | [] => ['0']
    | [d] => [d]
    | d :: rest => d :: '.' :: rest
  let size := Nat.toDigits 10 power.natAbs
  mantissa ++ 'e' :: (if power < 0 then '-' else '+')
    :: List.replicate (2 - size.length) '0' ++ size

namespace Binary64

/-- The text of a number. -/
def text : Binary64 → String
  | .notANumber => "nan"
  | .infinite negative => if negative then "-inf" else "inf"
  | .finite negative significand exponent =>
    let body :=
      if significand = 0 then ['0', '.', '0']
      else
        let (value, power) := shortestDecimal significand exponent
        let digits := Nat.toDigits 10 value
        let point : Int := power + digits.length
        if -4 < point && point ≤ 16 then positional digits point
        else withPower digits (point - 1)
    String.ofList (if negative then '-' :: body else body)

end Binary64

end LineGrammar.Numeral
