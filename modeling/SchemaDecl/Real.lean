/-!
# Numbers of double precision

A number with a fraction has 53 binary digits and an exponent within bounds.  A quotient of natural
numbers becomes the nearest such number; of two that are equally near, the one with an even mantissa
counts.  The text of a number has the fewest digits that stand for it, and of those the nearest.
-/

namespace SchemaDecl

/-- A number of double precision. -/
inductive Real where
  /-- The number `mantissa · 2 ^ exponent`, or its negative. -/
  | finite (negative : Bool) (mantissa : Nat) (exponent : Int)
  | infinite (negative : Bool)
  | undefined
  deriving DecidableEq, Repr

namespace Real

/-- The least mantissa of a number with all binary digits. -/
def leastMantissa : Nat := Nat.pow 2 52

/-- The exponent of the numbers that are nearest to zero. -/
def leastExponent : Int := -1074

/-- The exponent of the greatest numbers. -/
def greatestExponent : Int := 971

/-- The number zero, or its negative. -/
def zero (negative : Bool) : Real :=
  finite negative 0 leastExponent

/-! ## Rounding -/

/-- The natural number nearest to a quotient; of two that are equally near, the even one. -/
def roundQuotient (numerator denominator : Nat) : Nat :=
  let whole := numerator / denominator
  let rest := numerator % denominator
  if 2 * rest < denominator ∨ (2 * rest = denominator ∧ whole % 2 = 0) then whole else whole + 1

/-- A quotient, divided by a power of two. -/
def shiftQuotient (numerator denominator : Nat) (exponent : Int) : Nat × Nat :=
  if 0 ≤ exponent then (numerator, denominator * Nat.pow 2 exponent.toNat)
  else (numerator * Nat.pow 2 (-exponent).toNat, denominator)

/-- The exponent of the greatest power of two that is not above a quotient. -/
def magnitude (numerator denominator : Nat) : Int :=
  let guess : Int := (Nat.log2 numerator : Int) - Nat.log2 denominator
  let (left, right) := shiftQuotient numerator denominator guess
  if left < right then guess - 1 else guess

/-- The number with a mantissa of at most one digit too many. -/
def normal (negative : Bool) (mantissa : Nat) (exponent : Int) : Real :=
  let (mantissa, exponent) :=
    if mantissa = 2 * leastMantissa then (leastMantissa, exponent + 1) else (mantissa, exponent)
  if greatestExponent < exponent then infinite negative else finite negative mantissa exponent

/-- The number nearest to a quotient or its negative. -/
def ofQuotient (negative : Bool) (numerator denominator : Nat) : Real :=
  if numerator = 0 ∨ denominator = 0 then zero negative
  else
    let exponent := max (magnitude numerator denominator - 52) leastExponent
    let (left, right) := shiftQuotient numerator denominator exponent
    normal negative (roundQuotient left right) exponent

/-- The number of decimal digits of a natural number. -/
def decimalSize (value : Nat) : Nat :=
  (Nat.toDigits 10 value).length

/-- The number nearest to `mantissa · 10 ^ exponent` or its negative. -/
def ofDecimal (negative : Bool) (mantissa : Nat) (exponent : Int) : Real :=
  let size := decimalSize mantissa + exponent
  if mantissa = 0 ∨ size < -330 then zero negative
  else if 310 < size then infinite negative
  else if 0 ≤ exponent then ofQuotient negative (mantissa * Nat.pow 10 exponent.toNat) 1
  else ofQuotient negative mantissa (Nat.pow 10 (-exponent).toNat)

/-! ## Arithmetic -/

/-- The number of the other sign. -/
def negate : Real → Real
  | finite negative mantissa exponent => finite (!negative) mantissa exponent
  | infinite negative => infinite (!negative)
  | undefined => undefined

/-- The integer a number is equal to, if there is one. -/
def toInt? : Real → Option Int
  | finite negative mantissa exponent =>
      let (left, right) := shiftQuotient mantissa 1 (-exponent)
      if left % right = 0 then
        some (if negative then -((left / right : Nat) : Int) else (left / right : Nat))
      else none
  | _ => none

/-- A finite number as a quotient. -/
def quotient (negative : Bool) (mantissa : Nat) (exponent : Int) : Int × Nat :=
  let (left, right) := shiftQuotient mantissa 1 (-exponent)
  (if negative then -(left : Int) else left, right)

/-- The number nearest to a quotient with a sign. -/
def ofSigned (numerator : Int) (denominator : Nat) : Real :=
  ofQuotient (numerator < 0) numerator.natAbs denominator

/-- The sum of two numbers. -/
def add : Real → Real → Real
  | undefined, _ => undefined
  | _, undefined => undefined
  | infinite left, infinite right => if left = right then infinite left else undefined
  | infinite negative, finite .. => infinite negative
  | finite .., infinite negative => infinite negative
  | finite leftSign leftMantissa leftExponent, finite rightSign rightMantissa rightExponent =>
      let left := quotient leftSign leftMantissa leftExponent
      let right := quotient rightSign rightMantissa rightExponent
      ofSigned (left.1 * right.2 + right.1 * left.2) (left.2 * right.2)

/-- The product of a number and a natural number other than zero. -/
def scale (factor : Real) (value : Real) : Real :=
  match factor, value with
  | finite _ factorMantissa factorExponent, finite negative mantissa exponent =>
      let left := quotient false factorMantissa factorExponent
      let right := quotient false mantissa exponent
      ofQuotient negative (left.1.natAbs * right.1.natAbs) (left.2 * right.2)
  | _, value => value

/-! ## Text -/

/-- What a number stands for: the quotients between `low` and `high` over `denominator`, with these
two if the mantissa is even.  The number itself is `middle`. -/
structure Span where
  low : Nat
  middle : Nat
  high : Nat
  denominator : Nat
  closed : Bool

/-- What a number other than zero stands for.  The next number below a power of two is only half as
far away as the next one above. -/
def span (mantissa : Nat) (exponent : Int) : Span :=
  let (unit, denominator) := shiftQuotient 1 1 (2 - exponent)
  let gap := if mantissa = leastMantissa ∧ leastExponent < exponent then 1 else 2
  { low := (4 * mantissa - gap) * unit
    middle := 4 * mantissa * unit
    high := (4 * mantissa + 2) * unit
    denominator
    closed := mantissa % 2 = 0 }

namespace Span

/-- The number of decimal digits before the point, or the negative number of zeros after it. -/
def point (span : Span) : Int :=
  if span.denominator ≤ span.middle then decimalSize (span.middle / span.denominator)
  else
    let zeros := decimalSize span.denominator - decimalSize span.middle
    if span.denominator ≤ span.middle * Nat.pow 10 zeros then 1 - (zeros : Int) else -(zeros : Int)

/-- Two factors by which to compare multiples of `10 ^ exponent` with the span. -/
def factors (span : Span) (exponent : Int) : Nat × Nat :=
  if 0 ≤ exponent then (span.denominator * Nat.pow 10 exponent.toNat, 1)
  else (span.denominator, Nat.pow 10 (-exponent).toNat)

/-- Whether a span holds a multiple of a power of ten, given the two factors for it. -/
def holds (span : Span) (factors : Nat × Nat) (count : Nat) : Bool :=
  if span.closed then
    span.low * factors.2 ≤ count * factors.1 && count * factors.1 ≤ span.high * factors.2
  else span.low * factors.2 < count * factors.1 && count * factors.1 < span.high * factors.2

/-- The multiple of `10 ^ exponent` in a span that is nearest to its middle. -/
def nearest? (span : Span) (exponent : Int) : Option Nat :=
  let factors := span.factors exponent
  let below := span.middle * factors.2 / factors.1
  let rounded := roundQuotient (span.middle * factors.2) factors.1
  let other := if rounded = below then below + 1 else below
  if span.holds factors rounded then some rounded
  else if span.holds factors other then some other
  else none

/-- The digits of the shortest multiple of a power of ten in a span, at least `size` of them, and
where the point stands. -/
def digitsFrom (span : Span) (size : Nat) : Nat → List Char × Int
  | 0 => (Nat.toDigits 10 (span.middle / span.denominator), span.point)
  | bound + 1 =>
      match span.nearest? (span.point - size) with
      | none => digitsFrom span (size + 1) bound
      | some count =>
          let digits := Nat.toDigits 10 count
          (digits, span.point + digits.length - size)

/-- The digits of the shortest multiple of a power of ten in a span, and where the point stands.
Seventeen digits are always enough. -/
def digits (span : Span) : List Char × Int :=
  span.digitsFrom 1 17

end Span

/-- Digits without the zeros at their end. -/
def trimZeros (digits : List Char) : List Char :=
  (digits.reverse.dropWhile (· == '0')).reverse

/-- The digits of a number with the point after `point` of them: positional if the point is near,
otherwise with an exponent. -/
def place (digits : List Char) (point : Int) : String :=
  if -4 < point ∧ point ≤ 16 then
    if point ≤ 0 then
      "0." ++ String.ofList (List.replicate (-point).toNat '0' ++ digits)
    else
      let whole := digits.take point.toNat ++ List.replicate (point.toNat - digits.length) '0'
      let fraction := digits.drop point.toNat
      String.ofList whole ++ "." ++ String.ofList (if fraction = [] then ['0'] else fraction)
  else
    let exponent := point - 1
    let size := toString exponent.natAbs
    String.ofList (digits.take 1) ++
      (if digits.length ≤ 1 then "" else "." ++ String.ofList (digits.drop 1)) ++
      (if exponent < 0 then "e-" else "e+") ++ (if size.length < 2 then "0" ++ size else size)

/-- The text of a number. -/
def text : Real → String
  | finite negative mantissa exponent =>
      let size :=
        if mantissa = 0 then "0.0"
        else
          let (digits, point) := (span mantissa exponent).digits
          place (trimZeros digits) point
      if negative then "-" ++ size else size
  | infinite negative => if negative then "-inf" else "inf"
  | undefined => "nan"

end Real

end SchemaDecl
