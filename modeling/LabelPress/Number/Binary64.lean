import LabelPress.Number.Rounding

/-!
# Binary floating point numbers of 64 bits

A finite number is a sign, a significand of at most 53 bits and a power of two; its value is
`± significand * 2 ^ exponent`. Numbers are made by rounding an exact quotient to the nearest
representable one, ties to the even significand, so every operation here is exact arithmetic on
natural numbers followed by one rounding.

The exponent of a finite number is never below `minExponent`. A number is *normal* when its
significand has all 53 bits; only numbers at `minExponent` may have fewer.

## Main definitions

* `Binary64.ofQuotient`: the number nearest to a quotient of natural numbers.
* `Binary64.ofInt?`, `Binary64.ofDecimal`: nearest to an integer, to a decimal numeral.
* `Binary64.div`: the rounded quotient of two finite numbers.
* `Binary64.toInt?`: the integer part.
-/

namespace LabelPress.Number

/-- A binary floating point number of 64 bits. -/
inductive Binary64 where
  /-- The number `± significand * 2 ^ exponent`. -/
  | finite (negative : Bool) (significand : Nat) (exponent : Int)
  /-- One of the two infinities. -/
  | infinite (negative : Bool)
  /-- The result of an undefined operation. -/
  | notANumber
  deriving Repr, DecidableEq

namespace Binary64

/-- The number of bits of a significand. -/
def precision : Nat := 53

/-- The least exponent of a finite number. -/
def minExponent : Int := -1074

/-- The greatest exponent of a finite number. -/
def maxExponent : Int := 971

/-- The exponent at which a positive quotient has a significand of `precision` bits, or
`minExponent` if it is too small for that. -/
def exponentFor (num den : Nat) : Int :=
  let guess : Int := (Nat.log2 num : Int) - Nat.log2 den - precision
  let (n, d) := scaleByTwo num den (-guess)
  max minExponent (if Nat.pow 2 precision ≤ n / d then guess + 1 else guess)

/-- A significand and exponent with the sign, infinite if the exponent is too large. A significand
that was rounded up to `2 ^ precision` is halved first. -/
def pack (negative : Bool) (significand : Nat) (exponent : Int) : Binary64 :=
  let (m, e) :=
    if significand = Nat.pow 2 precision then (Nat.pow 2 (precision - 1), exponent + 1)
    else (significand, exponent)
  if maxExponent < e then .infinite negative else .finite negative m e

/-- The number nearest to `num / den`, with the given sign. The denominator is positive. -/
def ofQuotient (negative : Bool) (num den : Nat) : Binary64 :=
  if num = 0 then .finite negative 0 minExponent
  else
    let e := exponentFor num den
    let (n, d) := scaleByTwo num den (-e)
    pack negative (roundQuotient n d) e

/-- The number nearest to an integer, unless that is infinite. -/
def ofInt? (n : Int) : Option Binary64 :=
  match ofQuotient (n < 0) n.natAbs 1 with
  | .finite s m e => some (.finite s m e)
  | _ => none

/-- The powers of ten beyond which a decimal numeral is certainly infinite or zero. -/
def decimalHorizon : Int := 400

/-- The number nearest to `± coefficient * 10 ^ power`. -/
def ofDecimal (negative : Bool) (coefficient : Nat) (power : Int) : Binary64 :=
  let digits : Int := (Nat.toDigits 10 coefficient).length
  if coefficient = 0 then .finite negative 0 minExponent
  else if decimalHorizon < power + digits then .infinite negative
  else if power + digits < -decimalHorizon then .finite negative 0 minExponent
  else
    let (n, d) := scaleByTen coefficient 1 power
    ofQuotient negative n d

/-- The rounded quotient of two numbers. The divisor must be finite and other than zero; anything
else is not a number. -/
def div : Binary64 → Binary64 → Binary64
  | .finite s m e, .finite t n f =>
    if n = 0 then .notANumber
    else
      let (num, den) := scaleByTwo m n (e - f)
      ofQuotient (s != t) num den
  | .infinite s, .finite t n _ => if n = 0 then .notANumber else .infinite (s != t)
  | _, _ => .notANumber

/-- The integer part, toward zero. -/
def toInt? : Binary64 → Option Int
  | .finite s m e =>
    let (num, den) := scaleByTwo m 1 e
    let n : Int := (num / den : Nat)
    some (if s then -n else n)
  | _ => none

/-- Whether the number is finite. -/
def isFinite : Binary64 → Bool
  | .finite .. => true
  | _ => false

/-- Whether the number is finite and has no fractional part. -/
def isIntegral : Binary64 → Bool
  | .finite _ m e =>
    let (num, den) := scaleByTwo m 1 e
    num % den == 0
  | _ => false

/-- Whether the number is zero, of either sign. -/
def isZero : Binary64 → Bool
  | .finite _ m _ => m == 0
  | _ => false

/-- How the number compares with an integer; `notANumber` does not compare. -/
def compareInt (x : Binary64) (n : Int) : Option Ordering :=
  match x with
  | .finite s m e =>
    let (num, den) := scaleByTwo m 1 e
    some (compare (withSign s num) (n * den))
  | .infinite s => some (if s then .lt else .gt)
  | .notANumber => none
where
  /-- A magnitude with a sign. -/
  withSign (negative : Bool) (magnitude : Nat) : Int :=
    if negative then -(magnitude : Int) else magnitude

end Binary64

end LabelPress.Number
