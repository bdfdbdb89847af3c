/-!
# Rounding quotients

One function rounds a quotient of natural numbers to a natural number, ties to the even neighbour.
Reading a decimal numeral as a binary one, dividing binary numbers and writing a fixed number of
decimal places all go through it.
-/

namespace LabelPress.Number

/-- The natural number nearest to `num / den`; a quotient half way between two goes to the even
one. -/
def roundQuotient (num den : Nat) : Nat :=
  let q := num / den
  let r := num % den
  if 2 * r < den then q
  else if den < 2 * r then q + 1
  else if q % 2 = 0 then q
  else q + 1

/-- A quotient multiplied by two to the power `e`, as numerator and denominator. -/
def scaleByTwo (num den : Nat) (e : Int) : Nat × Nat :=
  if 0 ≤ e then (num * Nat.pow 2 e.toNat, den) else (num, den * Nat.pow 2 (-e).toNat)

/-- A quotient multiplied by ten to the power `e`, as numerator and denominator. -/
def scaleByTen (num den : Nat) (e : Int) : Nat × Nat :=
  if 0 ≤ e then (num * Nat.pow 10 e.toNat, den) else (num, den * Nat.pow 10 (-e).toNat)

end LabelPress.Number
