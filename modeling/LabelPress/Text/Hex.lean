/-!
# Hexadecimal text

Hexadecimal digits of fixed width, and the value of a hexadecimal digit. Pixels, escapes and
percent-encoded octets are all written with these.
-/

namespace LabelPress.Text

/-- The lower-case hexadecimal digit of a value below sixteen. -/
def hexDigit (d : Nat) : Char :=
  if d < 10 then Char.ofNat (0x30 + d) else Char.ofNat (0x57 + d)

/-- The last `width` hexadecimal digits of `n`, most significant first. -/
def hexText : Nat → Nat → List Char
  | 0, _ => []
  | width + 1, n => hexText width (n / 16) ++ [hexDigit (n % 16)]

theorem length_hexText (width n : Nat) : (hexText width n).length = width := by
  induction width generalizing n with
  | zero => rfl
  | succ w ih => simp [hexText, ih]

/-- The value of an ASCII letter used as a digit above nine, in either case. -/
def hexLetterValue? (c : Char) : Option Nat :=
  let n := c.toNat
  if 0x41 ≤ n && n ≤ 0x46 then some (n - 0x37)
  else if 0x61 ≤ n && n ≤ 0x66 then some (n - 0x57)
  else none

/-- The value of an ASCII hexadecimal digit. -/
def hexValue? (c : Char) : Option Nat :=
  if 0x30 ≤ c.toNat && c.toNat ≤ 0x39 then some (c.toNat - 0x30) else hexLetterValue? c

/-- The number that a list of digit values denotes in base sixteen. -/
def hexNumber (digits : List Nat) : Nat :=
  digits.foldl (fun total d => total * 16 + d) 0

end LabelPress.Text
