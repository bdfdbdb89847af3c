import LabelPress.Text.Blank
import LabelPress.Text.Digit
import LabelPress.Text.Hex

/-!
# Integers written as text

Two readers of integers.

* `readInteger base` is the generous one: white space around, one sign, decimal digits of any
  script (and ASCII letters where the base has such digits), single underscores between digits, and
  in base sixteen a leading `0x`. It serves colour components and scale factors.
* `readFieldInteger` serves input fields. It expects ASCII digits in canonical form, and tidies up a
  text that does not have it.

Both are bounded: a decimal numeral of more than `maxDigits` digits is refused, so that no input
makes the conversion expensive. The bound is applied to the digits that a numeral begins with,
before it is known what follows them.
-/

namespace LabelPress.Text

/-- The longest decimal numeral that is converted. -/
def maxDigits : Nat := 4300

/-- What is made of a text that should be an integer. -/
inductive IntegerReading where
  /-- The text denotes this integer. -/
  | value (n : Int)
  /-- The text begins with a numeral of this many digits, which is too long. -/
  | tooLong (digits : Nat)
  /-- The text does not have the form of an integer. -/
  | malformed
  deriving Repr, DecidableEq

/-- The integer that a text denotes, if it denotes one. -/
def IntegerReading.value? : IntegerReading → Option Int
  | value n => some n
  | _ => none

/-- Takes one sign from the front of a text; `true` stands for minus. -/
def takeSign : List Char → Bool × List Char
  | '-' :: cs => (true, cs)
  | '+' :: cs => (false, cs)
  | cs => (false, cs)

/-- A magnitude with the sign that `takeSign` found. -/
def withSign (negative : Bool) (magnitude : Nat) : Int :=
  if negative then -(magnitude : Int) else magnitude

/-! ### Generous reading -/

/-- The value of a character used as a digit in the given base. -/
def digitIn? (base : Nat) (c : Char) : Option Nat :=
  ((digitValue? c).or (hexLetterValue? c)).filter (· < base)

/-- The digit values of the numeral that a text begins with, and what follows it. A single
underscore may stand between two digits. The flag says whether a digit has just been read, which is
when an underscore may come and when the numeral may end. -/
def groupedDigits (value? : Char → Option Nat) : Bool → List Char → Option (List Nat × List Char)
  | afterDigit, [] => if afterDigit then some ([], []) else none
  | afterDigit, c :: cs =>
    if c = '_' then
      if afterDigit then groupedDigits value? false cs else none
    else
      match value? c with
      | some d => (groupedDigits value? true cs).map fun (ds, rest) => (d :: ds, rest)
      | none => if afterDigit then some ([], c :: cs) else none

/-- Drops a leading `0x` in base sixteen, together with one underscore after it. -/
def dropBaseMark (base : Nat) (s : List Char) : List Char :=
  if base = 16 then
    match s with
    | '0' :: x :: rest =>
      if x = 'x' || x = 'X' then
        match rest with
        | '_' :: digits => digits
        | digits => digits
      else s
    | _ => s
  else s

/-- Reads an integer in the given base. Decimal numerals of more than `maxDigits` digits are
refused; those in base sixteen are not limited. -/
def readInteger (base : Nat) (s : List Char) : IntegerReading :=
  let (negative, body) := takeSign (stripBy isWhiteSpace s)
  match groupedDigits (digitIn? base) false (dropBaseMark base body) with
  | none => .malformed
  | some (digits, rest) =>
    if base = 10 && maxDigits < digits.length then .tooLong digits.length
    else if rest.isEmpty then
      .value (withSign negative (digits.foldl (fun total d => total * base + d) 0))
    else .malformed

/-! ### Integers of input fields

A text that is not a plain numeral is tidied up in four steps: white space around it, a fraction of
zeros, leading zeros and underscores between digits are dropped. A minus sign may follow the leading
zeros instead of preceding them. -/

/-- Drops a fraction that consists of a point and one or more zeros. -/
def dropZeroFraction (s : List Char) : List Char :=
  match s.dropWhile (· ≠ '.') with
  | _ :: fraction =>
    if !fraction.isEmpty && fraction.all (· = '0') then s.takeWhile (· ≠ '.') else s
  | [] => s

/-- Goes on after a leading zero over further zeros and underscores. The last of them is left if
nothing else follows. -/
def dropFurtherZeros (last : Char) : List Char → Option (List Char)
  | [] => some [last]
  | c :: cs =>
    if c = '0' || c = '_' then dropFurtherZeros c cs
    else if isAsciiDigit c || c = '-' then some (c :: cs)
    else none

/-- Drops leading zeros. Nothing but a digit or a minus sign may come first, or after them. -/
def dropLeadingZeros? : List Char → Option (List Char)
  | [] => none
  | c :: cs =>
    if c = '0' then dropFurtherZeros c cs
    else if isAsciiDigit c || c = '-' then some (c :: cs)
    else none

/-- Whether two underscores stand side by side. -/
def hasDoubleUnderscore : List Char → Bool
  | '_' :: '_' :: _ => true
  | _ :: cs => hasDoubleUnderscore cs
  | [] => false

/-- Drops single underscores inside a text; any others stay. -/
def dropUnderscores (s : List Char) : List Char :=
  if s.head? = some '_' || s.getLast? = some '_' || hasDoubleUnderscore s then s
  else s.filter (· ≠ '_')

/-- A text in its tidy form: a minus sign at most, and a numeral. -/
def tidyInteger? (s : List Char) : Option (List Char) :=
  let body := stripBy isWhiteSpace s
  let tidy (t : List Char) : Option (List Char) :=
    (dropLeadingZeros? (dropZeroFraction t)).map dropUnderscores
  match body with
  | '-' :: rest => (tidy rest).map ('-' :: ·)
  | '+' :: '-' :: _ => none
  | '+' :: rest => tidy rest
  | _ => tidy body

/-- The value of an ASCII digit. -/
def asciiDigitValue (c : Char) : Nat :=
  c.toNat - 0x30

/-- Reads a minus sign at most and a numeral without leading zeros. -/
def readPlainInteger (s : List Char) : IntegerReading :=
  let (negative, body) := match s with
    | '-' :: rest => (true, rest)
    | _ => (false, s)
  let digits := body.takeWhile isAsciiDigit
  match digits with
  | [] | '0' :: _ :: _ => .malformed
  | _ =>
    if maxDigits < digits.length then .tooLong digits.length
    else if digits.length = body.length then
      .value (withSign negative (decimalValue (digits.map asciiDigitValue)))
    else .malformed

/-- Reads the integer of an input field, as it stands or in its tidy form. Only a text as it stands
can be refused for its length; one that is too long when it is tidy counts as malformed. -/
def readFieldInteger (s : List Char) : IntegerReading :=
  match readPlainInteger s with
  | .malformed =>
    match (tidyInteger? s).map readPlainInteger with
    | some (.value n) => .value n
    | _ => .malformed
  | reading => reading

end LabelPress.Text
