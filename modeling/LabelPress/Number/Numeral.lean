import LabelPress.Number.Decimal

/-!
# Numerals of binary numbers

Three styles of writing a binary number with a given precision: with so many decimal places, in
scientific notation with so many digits after the point, and in the one of these two that suits the
size of the number, with so many significant digits. All of them round the exact value to nearest,
ties to the even digit.

In the alternate form the point is always there, and the last style keeps the zeros at the end,
which it otherwise leaves out.

## Main definitions

* `NumeralForm`: a style with its precision.
* `Binary64.written`: a number in a form.
-/

namespace LabelPress.Number

/-- The styles of numerals. -/
inductive NumeralStyle where
  /-- Digits with a point at its natural place. -/
  | positional
  /-- One digit before the point, and an exponent. -/
  | scientific
  /-- Whichever of the two suits the number. -/
  | general
  deriving Repr, DecidableEq

/-- A style with its precision. -/
structure NumeralForm where
  /-- The style. -/
  style : NumeralStyle
  /-- The number of digits after the point, or of significant digits. -/
  precision : Nat
  /-- Whether the alternate form is meant. -/
  alternate : Bool
  deriving Repr, DecidableEq

/-- Digits before and after a point. Without digits after it the point is left out, unless it must
be there. -/
def pointed (alternate : Bool) (whole fraction : List Char) : List Char :=
  if fraction.isEmpty && !alternate then whole else whole ++ '.' :: fraction

/-- The digits of a number, filled up with zeros in front to a given length. -/
def paddedDigits (length n : Nat) : List Char :=
  let digits := digitsText n
  List.replicate (length - digits.length) '0' ++ digits

/-- The significant digits of a positive number, `count` of them, and the power of ten of the first
one. Rounding up can lead to a power more. -/
def significantDigits (significand : Nat) (exponent : Int) (count : Nat) : List Char × Int :=
  let lead := Binary64.leadingPower significand exponent
  let (n, d) := scaleByTwo significand 1 exponent
  let (num, den) := scaleByTen n d (count - 1 - lead)
  let digits := digitsText (roundQuotient num den)
  if digits.length ≤ count then (digits, lead) else (digits.take count, lead + 1)

/-- The significant digits of a number that may be zero. -/
def leadingDigits (significand : Nat) (exponent : Int) (count : Nat) : List Char × Int :=
  if significand = 0 then (List.replicate count '0', 0)
  else significantDigits significand exponent count

/-- Digits in scientific notation, the first of them having a given power of ten. -/
def withExponent (alternate : Bool) (digits : List Char) (power : Int) : List Char :=
  pointed alternate (digits.take 1) (digits.drop 1) ++ 'e' :: Binary64.exponentText power

/-- Digits in positional notation, the first of them having a given power of ten. -/
def withoutExponent (alternate : Bool) (digits : List Char) (power : Int) : List Char :=
  if power < 0 then
    pointed alternate ['0'] (List.replicate (-power - 1).toNat '0' ++ digits)
  else
    let places := power.toNat + 1
    pointed alternate (digits.take places ++ List.replicate (places - digits.length) '0')
      (digits.drop places)

/-- Digits in the style that suits their size. -/
def withSuitedExponent (alternate : Bool) (count : Nat) (digits : List Char) (power : Int) :
    List Char :=
  let kept :=
    if alternate then digits
    else digits.take 1 ++ Binary64.dropTrailingZeros (digits.drop 1)
  if power < -4 || count ≤ power then withExponent alternate kept power
  else withoutExponent alternate kept power

/-- A number without its sign in a form. -/
def NumeralForm.magnitude (s : NumeralForm) (significand : Nat) (exponent : Int) : List Char :=
  match s.style with
  | .positional =>
    let (num, den) := scaleByTwo (significand * Nat.pow 10 s.precision) 1 exponent
    let digits := paddedDigits (s.precision + 1) (roundQuotient num den)
    let whole := digits.length - s.precision
    pointed s.alternate (digits.take whole) (digits.drop whole)
  | .scientific =>
    let (digits, power) := leadingDigits significand exponent (s.precision + 1)
    withExponent s.alternate digits power
  | .general =>
    let count := max 1 s.precision
    let (digits, power) := leadingDigits significand exponent count
    withSuitedExponent s.alternate count digits power

/-- A number in a form. -/
def Binary64.written (s : NumeralForm) : Binary64 → List Char
  | .notANumber => ['n', 'a', 'n']
  | .infinite negative => (if negative then ['-'] else []) ++ ['i', 'n', 'f']
  | .finite negative significand exponent =>
    (if negative then ['-'] else []) ++ s.magnitude significand exponent

end LabelPress.Number
