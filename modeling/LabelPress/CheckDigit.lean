import LabelPress.Fault
import LabelPress.Symbology
import LabelPress.Text.Digit

/-!
# Check digits

EAN-13 and UPC-A end in a digit that makes a weighted sum of all digits a multiple of ten. The
weights alternate between one and three; the two schemes differ in their length and in which weight
comes first, and both give the check digit weight one.

Digits of any script are accepted and count by their value. The check digit that is appended is an
ASCII digit.

## Main definitions

* `Scheme.complete`: a payload with its check digit.
* `Scheme.verify`: a full code as it is, or with its check digit corrected.
* `Scheme.corrected`: the code that verifying leads to.
-/

namespace LabelPress.CheckDigit

open LabelPress.Text

/-- A scheme of check digits. -/
inductive Scheme where
  | ean13
  | upcA
  deriving Repr, DecidableEq

/-- The values of the characters of a text, or the first character that is not a decimal digit. -/
def digitValues : List Char → Except Fault (List Nat)
  | [] => .ok []
  | c :: cs =>
    match digitValue? c with
    | none => .error (.notAnInteger (String.singleton c))
    | some d =>
      match digitValues cs with
      | .ok ds => .ok (d :: ds)
      | .error e => .error e

/-- The sum of digits weighted alternately by `first` and `second`. -/
def weightedSum (first second : Nat) : List Nat → Nat
  | [] => 0
  | d :: ds => d * first + weightedSum second first ds

/-- What is missing from a number to the next multiple of ten. -/
def complement (n : Nat) : Nat :=
  (10 - n % 10) % 10

/-- What is missing from a number to the next multiple of ten, with the multiples of ten set apart
so that nothing has to be reduced. -/
def complementByCases (n : Nat) : Nat :=
  if n % 10 = 0 then 0 else 10 - n % 10

/-- Both ways of completing to a multiple of ten lead to the same digit. -/
theorem complementByCases_eq (n : Nat) : complementByCases n = complement n := by
  rw [complementByCases, complement]
  split <;> omega

namespace Scheme

/-- The number of digits before the check digit. -/
def payloadLength : Scheme → Nat
  | ean13 => 12
  | upcA => 11

/-- The number of digits with the check digit. -/
def codeLength (s : Scheme) : Nat :=
  s.payloadLength + 1

/-- The weights of the digits in odd and in even places, counted from the left. -/
def weights : Scheme → Nat × Nat
  | ean13 => (1, 3)
  | upcA => (3, 1)

/-- The weighted sum of digits under a scheme. -/
def sum (s : Scheme) (digits : List Nat) : Nat :=
  weightedSum s.weights.1 s.weights.2 digits

/-- The check digit of the digits of a payload. Each scheme has its own way of completing the
sum. -/
def checkDigit : Scheme → List Nat → Nat
  | ean13, digits => complement (ean13.sum digits)
  | upcA, digits => complementByCases (upcA.sum digits)

/-- The check digit completes the sum, whatever the scheme is. -/
theorem checkDigit_eq (s : Scheme) (digits : List Nat) :
    s.checkDigit digits = complement (s.sum digits) := by
  cases s with
  | ean13 => rfl
  | upcA => exact complementByCases_eq _

/-- The scheme of a symbology that has one. -/
def ofSymbology? : Symbology → Option Scheme
  | .ean13 => some ean13
  | .upcA => some upcA
  | _ => none

/-- A payload followed by its check digit; nothing if it does not have the length of a payload. -/
def complete (s : Scheme) (payload : List Char) : Except Fault (Option (List Char)) :=
  if payload.length = s.payloadLength then
    match digitValues payload with
    | .ok ds => .ok (some (payload ++ [asciiDigit (s.checkDigit ds)]))
    | .error e => .error e
  else .ok none

end Scheme

/-- The result of verifying a full code. -/
inductive Verdict where
  /-- The check digit is right. -/
  | sound (code : List Char)
  /-- The check digit was wrong and has been replaced. -/
  | repaired (given corrected : List Char)
  deriving Repr, DecidableEq

/-- The code after verification. -/
def Verdict.code : Verdict → List Char
  | .sound code => code
  | .repaired _ corrected => corrected

/-- Verifies a full code: its last digit is compared by value with the check digit of the digits
before it. Nothing comes back for a text that does not have the length of a code. -/
def Scheme.verify (s : Scheme) (code : List Char) : Except Fault (Option Verdict) :=
  if code.length = s.codeLength then
    let payload := code.take s.payloadLength
    match digitValues payload with
    | .error e => .error e
    | .ok ds =>
      match digitValues (code.drop s.payloadLength) with
      | .error e => .error e
      | .ok last =>
        if last = [s.checkDigit ds] then .ok (some (.sound code))
        else .ok (some (.repaired code (payload ++ [asciiDigit (s.checkDigit ds)])))
  else .ok none

/-- A full code as it is after verification. -/
def Scheme.corrected (s : Scheme) (code : List Char) : Except Fault (Option (List Char)) :=
  (s.verify code).map (Option.map Verdict.code)

end LabelPress.CheckDigit
