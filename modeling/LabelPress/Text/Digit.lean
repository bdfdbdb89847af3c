/-!
# Decimal digits of every script

The characters of general category `Nd` come in blocks of ten consecutive code points, zero first.
`decimalZeros` lists the zeros, so a character is a digit exactly when it lies at most nine above
one of them, and its value is the distance. Superscripts, circled numbers and numerals of other
categories are not digits.

## Main definitions

* `digitValue? c`: the value of the decimal digit `c`.
* `digitRun s`: the digits that `s` begins with, and what follows them.
* `decimalValue ds`: the number that a run of digit values denotes.
-/

namespace LabelPress.Text

/-- The code points of the digits zero, ASCII first. -/
def decimalZeros : List Nat :=
  [0x0030, 0x0660, 0x06F0, 0x07C0, 0x0966, 0x09E6, 0x0A66, 0x0AE6, 0x0B66, 0x0BE6, 0x0C66,
    0x0CE6, 0x0D66, 0x0DE6, 0x0E50, 0x0ED0, 0x0F20, 0x1040, 0x1090, 0x17E0, 0x1810, 0x1946,
    0x19D0, 0x1A80, 0x1A90, 0x1B50, 0x1BB0, 0x1C40, 0x1C50, 0xA620, 0xA8D0, 0xA900, 0xA9D0,
    0xA9F0, 0xAA50, 0xABF0, 0xFF10, 0x104A0, 0x10D30, 0x11066, 0x110F0, 0x11136, 0x111D0, 0x112F0,
    0x11450, 0x114D0, 0x11650, 0x116C0, 0x11730, 0x118E0, 0x11950, 0x11C50, 0x11D50, 0x11DA0,
    0x16A60, 0x16AC0, 0x16B50, 0x1D7CE, 0x1D7D8, 0x1D7E2, 0x1D7EC, 0x1D7F6, 0x1E140, 0x1E2F0,
    0x1E950, 0x1FBF0]

/-- The value of a decimal digit of any script. -/
def digitValue? (c : Char) : Option Nat :=
  (decimalZeros.find? fun z => z ≤ c.toNat && c.toNat < z + 10).map (c.toNat - ·)

/-- Whether a character is a decimal digit of some script. -/
def isDecimalDigit (c : Char) : Bool :=
  (digitValue? c).isSome

/-- Whether a character is one of the ten ASCII digits. -/
def isAsciiDigit (c : Char) : Bool :=
  0x30 ≤ c.toNat && c.toNat ≤ 0x39

/-- The value of a digit character, and zero for any other character. -/
def digitValue (c : Char) : Nat :=
  (digitValue? c).getD 0

/-- The number that a list of digit values denotes, most significant first. -/
def decimalValue (digits : List Nat) : Nat :=
  digits.foldl (fun total d => total * 10 + d) 0

/-- The longest run of decimal digits that a text begins with, and the rest of the text. -/
def digitRun (s : List Char) : List Char × List Char :=
  (s.takeWhile isDecimalDigit, s.dropWhile isDecimalDigit)

/-- The ASCII digit of a value below ten. -/
def asciiDigit (d : Nat) : Char :=
  Char.ofNat (0x30 + d)

end LabelPress.Text
