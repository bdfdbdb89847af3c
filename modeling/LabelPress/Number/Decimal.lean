import LabelPress.Number.Binary64

/-!
# Decimal text of binary numbers

`shortest?` finds the fewest significant digits that read back as the same number, and among the
numerals with so few digits the one nearest to it. `shortestText` lays them out: positional notation
from `10 ^ -4` up to below `10 ^ 16` with at least one decimal place, and an exponent of at least
two digits otherwise.
-/

namespace LabelPress.Number

/-- The digits of a natural number, most significant first. -/
def digitsText (n : Nat) : List Char :=
  Nat.toDigits 10 n

namespace Binary64

/-- The interval of values that round to a positive finite number, in units of a quarter of its
last place, and whether its ends belong to it. Below a power of two the neighbour is only half as
far away. -/
def roundingInterval (significand : Nat) (exponent : Int) : Nat × Nat × Bool :=
  let lower := if significand = Nat.pow 2 (precision - 1) && minExponent < exponent then 1 else 2
  (4 * significand - lower, 4 * significand + 2, significand % 2 = 0)

/-- Whether `n * 10 ^ k` rounds to `significand * 2 ^ exponent`. -/
def readsBack (significand : Nat) (exponent : Int) (n : Nat) (k : Int) : Bool :=
  let (lower, upper, closed) := roundingInterval significand exponent
  let (a, b) := scaleByTen n 1 k
  let (p, q) := scaleByTwo 1 1 (exponent - 2)
  -- a / b against bound * (p / q)
  let low := b * lower * p
  let high := b * upper * p
  if closed then low ≤ a * q && a * q ≤ high else low < a * q && a * q < high

/-- The nearest multiple of `10 ^ k` that reads back as the number, if one of the two multiples
next to the number does. -/
def onGrid? (significand : Nat) (exponent k : Int) : Option Nat :=
  let (n, d) := scaleByTwo significand 1 exponent
  let (num, den) := scaleByTen n d (-k)
  let below := num / den
  let first := if 2 * (num % den) < den || (2 * (num % den) = den && below % 2 = 0) then below
    else below + 1
  let second := if first = below then below + 1 else below
  if readsBack significand exponent first k then some first
  else if readsBack significand exponent second k then some second
  else none

/-- The power of ten of the first digit of a positive number. -/
def leadingPower (significand : Nat) (exponent : Int) : Int :=
  let (n, d) := scaleByTwo significand 1 exponent
  if d ≤ n then (digitsText (n / d)).length - 1
  else
    let length := (digitsText (d / n)).length
    if n * Nat.pow 10 (length - 1) = d then 1 - (length : Int) else -(length : Int)

/-- Searches the grids with `count`, `count + 1`, … significant digits, `fuel` of them. -/
def searchGrids (significand : Nat) (exponent lead : Int) : Nat → Nat → Option (Nat × Int)
  | 0, _ => none
  | fuel + 1, count =>
    let k := lead - count + 1
    match onGrid? significand exponent k with
    | some n => some (n, k)
    | none => searchGrids significand exponent lead fuel (count + 1)

/-- The shortest decimal numeral `n * 10 ^ k` that reads back as the given positive number.
Seventeen significant digits always suffice. -/
def shortest? (significand : Nat) (exponent : Int) : Option (Nat × Int) :=
  searchGrids significand exponent (leadingPower significand exponent) 17 1

/-- Digits with the decimal point after the first `point` of them, filled up with zeros, and with
at least one place after the point. -/
def positional (digits : List Char) (point : Int) : List Char :=
  if point ≤ 0 then '0' :: '.' :: List.replicate (-point).toNat '0' ++ digits
  else
    let p := point.toNat
    if digits.length ≤ p then digits ++ List.replicate (p - digits.length) '0' ++ ['.', '0']
    else digits.take p ++ '.' :: digits.drop p

/-- An exponent with its sign and at least two digits. -/
def exponentText (e : Int) : List Char :=
  let digits := digitsText e.natAbs
  (if e < 0 then '-' else '+') :: (if digits.length < 2 then '0' :: digits else digits)

/-- Digits in scientific notation, one of them before the point. -/
def scientific (digits : List Char) (power : Int) : List Char :=
  match digits with
  | [] => []
  | [d] => d :: 'e' :: exponentText power
  | d :: ds => d :: '.' :: ds ++ 'e' :: exponentText power

/-- Digits without the zeros at their end. -/
def dropTrailingZeros (digits : List Char) : List Char :=
  (digits.reverse.dropWhile (· = '0')).reverse

/-- The shortest text that reads back as the given number. -/
def shortestText : Binary64 → List Char
  | .notANumber => ['n', 'a', 'n']
  | .infinite s => (if s then ['-'] else []) ++ ['i', 'n', 'f']
  | .finite s m e =>
    let sign := if s then ['-'] else []
    if m = 0 then sign ++ ['0', '.', '0']
    else
      match shortest? m e with
      | none => sign
      | some (n, k) =>
        let all := digitsText n
        let point : Int := all.length + k
        let digits := dropTrailingZeros all
        sign ++ (if -4 < point && point ≤ 16 then positional digits point
          else scientific digits (point - 1))

end Binary64

end LabelPress.Number
